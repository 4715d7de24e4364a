import Scriptlet.Number.Style
import Scriptlet.Operator
import Scriptlet.Text.Quoted

/-! Tokens: a kind, an optional payload and the line the token starts on. The line serves
diagnostics only. The payload goes with the kind: integers and floats have their value, operators,
strings, identifiers, keywords and compound assignments a text, and all other kinds nothing. Lists
of such tokens are what the grammar is meant for; where it needs the payload of a token that has
another one, it fails. -/

namespace Scriptlet

inductive Token.Kind where
  | operator
  | string
  | integer
  | float
  | identifier
  | keyword
  | semicolon
  | comma
  | define
  | assign
  | compoundAssign
  | doubleColon
  | openParen
  | closeParen
  | openBrace
  | closeBrace
  | openBracket
  | closeBracket
  deriving DecidableEq, Repr, Inhabited

inductive Token.Payload where
  | text (text : String)
  | integer (value : Int)
  | float (value : Float)

structure Token where
  kind : Token.Kind
  payload : Option Token.Payload
  line : Nat

namespace Token

namespace Kind

def all : List Kind :=
  [operator, string, integer, float, identifier, keyword, semicolon, comma, define, assign,
    compoundAssign, doubleColon, openParen, closeParen, openBrace, closeBrace, openBracket,
    closeBracket]

def label : Kind → String
  | operator => "operator"
  | string => "string"
  | integer => "integer"
  | float => "float"
  | identifier => "identifier"
  | keyword => "keyword"
  | semicolon => "end_of_statement"
  | comma => "comma"
  | define => "define"
  | assign => "assign"
  | compoundAssign => "assign_op"
  | doubleColon => "namespace"
  | openParen => "paren_open"
  | closeParen => "paren_close"
  | openBrace => "curly_open"
  | closeBrace => "curly_close"
  | openBracket => "bracket_open"
  | closeBracket => "bracket_close"

/-- The spelling of a kind that has only one. -/
def spelling? : Kind → Option String
  | semicolon => some ";"
  | comma => some ","
  | define => some ":="
  | assign => some "="
  | doubleColon => some "::"
  | openParen => some "("
  | closeParen => some ")"
  | openBrace => some "\x7b"
  | closeBrace => some "\x7d"
  | openBracket => some "["
  | closeBracket => some "]"
  | operator | string | integer | float | identifier | keyword | compoundAssign => none

def shown (kind : Kind) : String :=
  kind.spelling?.getD kind.label

end Kind

/-- Floats in diagnostics: a decimal point always, an exponent below `10 ^ -4` and from `10 ^ 16`
on. -/
def floatStyle : Number.Style where
  nan := "nan"
  infinity := "inf"
  exact := false
  point := true
  positional := fun magnitude => -4 ≤ magnitude && magnitude < 16

namespace Payload

def shown : Payload → String
  | text written => written
  | integer value => toString value
  | float value => floatStyle.write value

/-- Equality of payloads; numbers compare by value whatever their form. -/
def agrees : Payload → Payload → Bool
  | text left, text right => left == right
  | integer left, integer right => left == right
  | float left, float right => left == right
  | integer left, float right => (Number.Binary64.ofFloat right).equalsInt left
  | float left, integer right => (Number.Binary64.ofFloat left).equalsInt right
  | text _, _ | _, text _ => false

def same : Payload → Payload → Bool
  | integer _, float _ | float _, integer _ => false
  | left, right => left.agrees right

end Payload

def keywords : List String :=
  ["fun", "while", "if", "elif", "else", "import", "for", "return"]

def compoundAssignments : List String :=
  ["+=", "-=", "*=", "/="]

def fits (token : Token) (kind : Kind) (payload : Option Payload) : Bool :=
  token.kind == kind &&
    match payload, token.payload with
    | none, _ => true
    | some wanted, some found => found.agrees wanted
    | some _, none => false

def same (left right : Token) : Bool :=
  left.kind == right.kind &&
    match left.payload, right.payload with
    | none, none => true
    | some mine, some yours => mine.same yours
    | _, _ => false

def text? (token : Token) : Option String :=
  match token.payload with
  | some (.text text) => some text
  | _ => none

def identifier? (token : Token) : Option String :=
  if token.kind == .identifier then token.text? else none

def operator? (token : Token) : Option Operator :=
  if token.kind == .operator then token.text?.map Operator.ofText else none

def describe (token : Token) : String :=
  match token.payload with
  | none => "'" ++ token.kind.shown ++ "'"
  | some payload => token.kind.label ++ " '" ++ payload.shown ++ "'"

end Token

def Operator.dump (op : Operator) : String :=
  match op.memberName? with
  | some name => "<Op." ++ name ++ ": " ++ Text.quoted op.text ++ ">"
  | none => Text.quoted op.text

namespace Token

def Payload.dump (kind : Kind) : Payload → String
  | .text written =>
      if kind == .operator then (Operator.ofText written).dump else Text.quoted written
  | .integer value => toString value
  | .float value => floatStyle.write value

def dump (token : Token) : String :=
  "Token(" ++ token.kind.label ++ ", " ++
    (match token.payload with
    | none => "None"
    | some payload => payload.dump token.kind) ++
    ", line=" ++ toString token.line ++ ")"

end Token

end Scriptlet
