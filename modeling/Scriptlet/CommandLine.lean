import Scriptlet.Script

/-! The command line: one argument, which names a script or asks for help or the licence. The
environment switches debugging on and sets the recursion limit. -/

namespace Scriptlet.CommandLine

structure Environment where
  debug : Option String := none
  limit : Option String := none

inductive Reading where
  | bytes (content : ByteArray)
  | notFound
  | isDirectory
  | notDirectory
  | nameTooLong

inductive Exit where
  | status (code : Nat)
  | unhandled (title : String)

structure Outcome where
  exit : Exit
  out : String := ""
  err : String := ""

def usage : String :=
  "\noko Language Interpreter\n\nUsage:\n    oko <script.oko>\n\nArguments:\n    <script.oko>\n" ++
  "        Path to an oko language source file to execute.\n    license\n" ++
  "        Print the license notice and exit.\n\nOptions:\n    -h, --help\n" ++
  "        Show this help message and exit.\n"

def licence : String :=
  "oko-lang\nCopyright: © 2025 Chris Rowles. All rights reserved.\n" ++
  "Released under the MIT License.\n"

def leastLimit : Int := 100

def greatestLimit : Int := 2147483647

def recursionLimit (setting : Option String) : Int × List Event :=
  let text := setting.getD ""
  if text.isEmpty then (Script.defaultLimit, [])
  else
    match Number.Numeral.integer? text.toList with
    | some limit => (max limit leastLimit, [])
    | none => (Script.defaultLimit, [.limitIgnored text])

def unifyNewlines : List Char → List Char
  | [] => []
  | '\r' :: '\n' :: rest => '\n' :: unifyNewlines rest
  | '\r' :: rest => '\n' :: unifyNewlines rest
  | c :: rest => c :: unifyNewlines rest

def dump (program : Script.Program) : String :=
  "\nTokens:\n\n[" ++ ", ".intercalate (program.tokens.map Token.dump) ++ "]\n\nAST:\n\n" ++
    program.tree.dump ++ "\n \n"

def isDebugging (environment : Environment) : Bool :=
  (environment.debug.getD "") != ""

def journal (environment : Environment) : Journal :=
  if isDebugging environment then Journal.install {} .debug else {}

def report (fault : Fault) : String :=
  fault.cause.title ++ ": " ++ fault.message ++ "\n"

def runText (environment : Environment) (limit rounds : Nat) (name source : String) : Outcome :=
  let reading := Script.read limit name source
  let (ending, machine) := Script.execute ⟨limit, rounds⟩ name reading {}
  let shown :=
    match reading.1, isDebugging environment with
    | .ok program, true => dump program
    | _, _ => ""
  let log := (journal environment).text machine.events.toList
  let out := shown ++ machine.printed
  match ending with
  | .finished _ => { exit := .status 0, out := out, err := log }
  | .failed fault => { exit := .status 1, out := out, err := log ++ report fault }
  | .unfinished => { exit := .unhandled "unfinished", out := out, err := log }

def unreadable (title name reason : String) : Outcome :=
  { exit := .status 1, err := title ++ ": cannot read '" ++ name ++ "': " ++ reason ++ "\n" }

def runReading (environment : Environment) (rounds : Nat) (name : String) : Reading → Outcome
  | .notFound => unreadable "FileNotFoundError" name "No such file or directory"
  | .isDirectory => unreadable "IsADirectoryError" name "Is a directory"
  | .notDirectory => unreadable "NotADirectoryError" name "Not a directory"
  | .nameTooLong => unreadable "OSError" name "File name too long"
  | .bytes content =>
      match String.fromUTF8? content with
      | none => { exit := .unhandled "UnicodeDecodeError" }
      | some text =>
          let source := String.ofList (unifyNewlines text.toList)
          let (limit, events) := recursionLimit environment.limit
          let warnings := (journal environment).text events
          if greatestLimit < limit then { exit := .unhandled "OverflowError", err := warnings }
          else
            let outcome := runText environment limit.toNat rounds name source
            { outcome with err := warnings ++ outcome.err }

def hasExtension (name : String) : Bool :=
  name.endsWith ".oko"

def runScript (environment : Environment) (rounds : Nat) (name : String) (reading : Reading) :
    Outcome :=
  let warnings :=
    if hasExtension name then "" else (journal environment).text [.extensionMissing name]
  let outcome := runReading environment rounds name reading
  { outcome with err := warnings ++ outcome.err }

inductive Request where
  | help
  | licence
  | script (name : String)
  | malformed
  deriving DecidableEq, Repr

def request : List String → Request
  | ["-h"] | ["--help"] => .help
  | ["license"] => .licence
  | [name] => .script name
  | _ => .malformed

def run {m : Type → Type} [Monad m] (read : String → m Reading) (environment : Environment)
    (rounds : Nat) (arguments : List String) : m Outcome :=
  match request arguments with
  | .help => pure { exit := .status 0, out := usage }
  | .licence => pure { exit := .status 0, out := licence }
  | .malformed =>
      pure { exit := .status 1, err := "Error: expected exactly one script path\n" ++ usage }
  | .script name => do
      return runScript environment rounds name (← read name)

end Scriptlet.CommandLine
