/-! The operators of the language, their spellings and how tightly they bind. -/

namespace Scriptlet

/-- An operator; `unknown` is any text that spells none of the others. -/
inductive Operator where
  | add
  | subtract
  | multiply
  | divide
  | modulo
  | power
  | equal
  | notEqual
  | greater
  | less
  | greaterEqual
  | lessEqual
  | and
  | or
  | not
  | unknown (text : String)
  deriving DecidableEq, Repr, Inhabited

namespace Operator

def text : Operator → String
  | add => "+"
  | subtract => "-"
  | multiply => "*"
  | divide => "/"
  | modulo => "%"
  | power => "^"
  | equal => "=="
  | notEqual => "!="
  | greater => ">"
  | less => "<"
  | greaterEqual => ">="
  | lessEqual => "<="
  | and => "&&"
  | or => "||"
  | not => "!"
  | unknown text => text

def known : List Operator :=
  [add, subtract, multiply, divide, modulo, power, equal, notEqual, greater, less, greaterEqual,
    lessEqual, and, or, not]

def ofText (text : String) : Operator :=
  (known.find? fun op => op.text == text).getD (unknown text)

/-- The operators that source text can spell; inequality is not among them. -/
def lexical : List Operator :=
  [add, subtract, multiply, divide, modulo, power, not, greater, less, greaterEqual, lessEqual,
    and, or, equal]

def precedence? : Operator → Option Nat
  | or => some 1
  | and => some 2
  | notEqual | equal | greater | less | greaterEqual | lessEqual => some 3
  | add | subtract => some 5
  | multiply | divide | modulo => some 6
  | power => some 7
  | not | unknown _ => none

/-- The floor for the operand of a unary operator, above every binary precedence. -/
def unaryPrecedence : Nat := 9

def isUnary (op : Operator) : Bool :=
  op == not || op == subtract

def memberName? : Operator → Option String
  | add => some "ADD"
  | subtract => some "SUB"
  | multiply => some "MUL"
  | divide => some "DIV"
  | modulo => some "MOD"
  | power => some "POW"
  | equal => some "EQ"
  | notEqual => some "NE"
  | greater => some "GT"
  | less => some "LT"
  | greaterEqual => some "GE"
  | lessEqual => some "LE"
  | and => some "AND"
  | or => some "OR"
  | not => some "NOT"
  | unknown _ => none

/-- What an operator fails to do when it meets operands it has no rule for. -/
def undertaking : Operator → String
  | add => "addition of divergent types"
  | subtract => "subtraction of divergent types"
  | multiply => "multiplication of divergent types"
  | divide => "division of divergent types"
  | modulo => "modulo of divergent types"
  | power => "exponentiation of divergent types"
  | equal | notEqual | greater | less | greaterEqual | lessEqual => "comparison of divergent types"
  | and => "boolean and of non-boolean types"
  | or => "boolean or of non-boolean types"
  | not | unknown _ => ""

end Operator

end Scriptlet
