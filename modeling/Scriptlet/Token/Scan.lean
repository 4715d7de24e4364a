import Scriptlet.Fault
import Scriptlet.Number.Numeral
import Scriptlet.Token.CharClass

/-! Lexing: one pass over the characters of a source text. Characters of one class make up a run,
which becomes a token when a character of another class ends it; a bracket is a run of its own.
A quote opens a string, and two slashes at the end of a run of symbols open a comment. -/

namespace Scriptlet.Token

/-- Replaces every backslash that stands before `letter`, together with it. -/
def replaceEscape (letter replacement : Char) : List Char → List Char
  | [] => []
  | '\\' :: c :: rest =>
      if c == letter then replacement :: replaceEscape letter replacement rest
      else '\\' :: replaceEscape letter replacement (c :: rest)
  | c :: rest => c :: replaceEscape letter replacement rest

/-- The escapes of a string literal, in the order they are replaced. -/
def escapes : List (Char × Char) :=
  [('n', '\n'), ('e', '\x1b'), ('t', '\t'), ('\"', '\"')]

def unescape (body : List Char) : List Char :=
  escapes.foldl (fun text escape => replaceEscape escape.1 escape.2 text) body

def integerMax : Int := Int.pow 2 64 - 1

def ofWord (text : String) (line : Nat) : Token :=
  { kind := if keywords.contains text then .keyword else .identifier
    payload := some (.text text)
    line := line }

def ofNumeral? (text : List Char) (line : Nat) : Option Token :=
  let asFloat : Option Token :=
    (Number.Numeral.decimal? text).map fun value => ⟨.float, some (.float value), line⟩
  match Number.Numeral.integer? text with
  | some value =>
      if value ≤ integerMax then some ⟨.integer, some (.integer value), line⟩ else asFloat
  | none => asFloat

def punctuation : List Kind :=
  [.assign, .define, .comma, .semicolon, .doubleColon]

def ofSymbol? (text : String) (line : Nat) : Option Token :=
  match punctuation.find? fun kind => kind.spelling? == some text with
  | some kind => some ⟨kind, none, line⟩
  | none =>
      if compoundAssignments.contains text then some ⟨.compoundAssign, some (.text text), line⟩
      else if Operator.lexical.any fun op => op.text == text then
        some ⟨.operator, some (.text text), line⟩
      else none

def ofRun (group : CharClass) (run : List Char) (line : Nat) : Except Fault (Option Token) :=
  match group with
  | .letter => .ok (some (ofWord (String.ofList run) line))
  | .numeric =>
      match ofNumeral? run line with
      | some token => .ok (some token)
      | none => .error { cause := .malformedNumber (String.ofList run), line := some line }
  | .bracket kind => .ok (some ⟨kind, none, line⟩)
  | .symbol =>
      if run.isEmpty then .ok none
      else
        match ofSymbol? (String.ofList run) line with
        | some token => .ok (some token)
        | none => .error { cause := .unknownSymbol (String.ofList run), line := some line }
  | .quote | .blank => .ok none

/-- What the scanner is in the middle of. Runs and string bodies are held last character first. -/
inductive Scanner.Mode where
  | between
  | run (group : CharClass) (reversed : List Char)
  | string (reversed : List Char)
  | comment

/-- `line` is the line of the next character, `start` that of the current run or string, and
`reversed` are the tokens found so far, last first. -/
structure Scanner where
  mode : Scanner.Mode := .between
  line : Nat := 1
  start : Nat := 1
  reversed : List Token := []

namespace Scanner

/-- Whether a quote after this string body ends the string: an even number of backslashes precedes
it. -/
def closes (reversed : List Char) : Bool :=
  (reversed.takeWhile (· == '\\')).length % 2 == 0

def flush (scanner : Scanner) : Except Fault Scanner :=
  match scanner.mode with
  | .run group reversed =>
      match ofRun group reversed.reverse scanner.start with
      | .ok (some token) =>
          .ok { scanner with mode := .between, reversed := token :: scanner.reversed }
      | .ok none => .ok { scanner with mode := .between }
      | .error fault => .error fault
  | _ => .ok { scanner with mode := .between }

def enter (scanner : Scanner) (group : CharClass) (reversed : List Char) :
    Except Fault Scanner :=
  match group, reversed with
  | .blank, _ => .ok { scanner with mode := .between }
  | .quote, _ => .ok { scanner with mode := .string [] }
  | .symbol, '/' :: '/' :: rest =>
      match flush { scanner with mode := .run .symbol rest } with
      | .ok scanner => .ok { scanner with mode := .comment }
      | .error fault => .error fault
  | _, _ => .ok { scanner with mode := .run group reversed }

def lineAfter (scanner : Scanner) (c : Char) : Nat :=
  if c == '\n' then scanner.line + 1 else scanner.line

def step (scanner : Scanner) (c : Char) : Except Fault Scanner :=
  let next := scanner.lineAfter c
  match scanner.mode with
  | .comment =>
      .ok { scanner with mode := if c == '\n' then .between else .comment, line := next }
  | .string reversed =>
      if c == '\"' && closes reversed then
        let text := String.ofList (unescape reversed.reverse)
        .ok { scanner with
          mode := .between
          reversed := ⟨.string, some (.text text), scanner.start⟩ :: scanner.reversed }
      else .ok { scanner with mode := .string (c :: reversed), line := next }
  | .run group reversed =>
      if group == .ofChar c && CharClass.bracket? c == none then
        enter { scanner with line := next } group (c :: reversed)
      else
        match scanner.flush with
        | .ok flushed => enter { flushed with line := next, start := scanner.line } (.ofChar c) [c]
        | .error fault => .error fault
  | .between => enter { scanner with line := next, start := scanner.line } (.ofChar c) [c]

def finish (scanner : Scanner) : Except Fault Scanner :=
  match scanner.mode with
  | .string _ => .error { cause := .unterminatedString, line := some scanner.start }
  | _ => scanner.flush

end Scanner

def scanChars (chars : List Char) : Except Fault Scanner :=
  match chars.foldlM Scanner.step {} with
  | .ok scanner => scanner.finish
  | .error fault => .error fault

def scan (source : String) : Except Fault (List Token) :=
  (scanChars source.toList).map fun scanner => scanner.reversed.reverse

end Scriptlet.Token
