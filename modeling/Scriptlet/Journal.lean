import Scriptlet.Token

/-! The journal of a run: what its stages report about their work, apart from the script's own
output. -/

namespace Scriptlet

inductive Level where
  | unset
  | debug
  | info
  | warning
  | error
  | critical
  deriving DecidableEq, Repr

def Level.name : Level → String
  | unset => "NOTSET"
  | debug => "DEBUG"
  | info => "INFO"
  | warning => "WARNING"
  | error => "ERROR"
  | critical => "CRITICAL"

def Level.all : List Level :=
  [unset, debug, info, warning, error, critical]

inductive Event where
  | tokenized (tokens lines : Nat)
  | statement (start : Token)
  | call (name : String) (arguments line : Nat)
  | loop (line iterations : Nat)
  | extensionMissing (script : String)
  | limitIgnored (text : String)

namespace Event

def level : Event → Level
  | extensionMissing _ | limitIgnored _ => .warning
  | _ => .debug

def reporter : Event → String
  | tokenized .. => "okolang.lexer"
  | statement _ => "okolang.parser"
  | call .. | loop .. => "okolang.interpreter"
  | extensionMissing _ | limitIgnored _ => "okolang.cli"

def message : Event → String
  | tokenized tokens lines =>
      "Tokenized " ++ toString tokens ++ " tokens over " ++ toString lines ++ " lines"
  | statement start => "Parsing statement at " ++ start.dump
  | call name arguments line =>
      "call " ++ name ++ "(" ++ toString arguments ++ " args) on line " ++ toString line
  | loop line iterations =>
      "while on line " ++ toString line ++ " ran " ++ toString iterations ++ " iterations"
  | extensionMissing script => script ++ " does not have the .oko extension"
  | limitIgnored text => "Ignoring non-integer OKO_RECURSION_LIMIT " ++ Text.quoted text

def record (event : Event) : String :=
  event.level.name ++ " " ++ event.reporter ++ ": " ++ event.message ++ "\n"

end Event

/-- Where events go. With no handler installed, only warnings are shown, as bare messages. -/
structure Journal where
  handler : Option Level := none

namespace Journal

def install (_ : Journal) (level : Level) : Journal :=
  ⟨some level⟩

def handlerCount (journal : Journal) : Nat :=
  if journal.handler.isSome then 1 else 0

def propagates (journal : Journal) : Bool :=
  journal.handler.isNone

def rank : Level → Nat
  | .debug => 1
  | .info => 2
  | .warning | .unset => 3
  | .error => 4
  | .critical => 5

def shown (journal : Journal) (event : Event) : String :=
  match journal.handler with
  | none => if event.level == .warning then event.message ++ "\n" else ""
  | some level => if rank level ≤ rank event.level then event.record else ""

def text (journal : Journal) (events : List Event) : String :=
  String.join (events.map journal.shown)

end Journal

end Scriptlet
