import Scriptlet.Operator

/-! The syntax tree. Every node has the line that faults met at it are reported on. -/

namespace Scriptlet

/-- How an assignment treats its target: it makes a new variable, replaces the value of one, or
combines the value with another. A compound assignment is kept as it was spelled. -/
inductive Assignment where
  | define
  | replace
  | compound (text : String)
  deriving DecidableEq, Repr

namespace Assignment

def text : Assignment → String
  | define => ":="
  | replace => "="
  | compound text => text

def ofText (text : String) : Assignment :=
  if text == ":=" then define else if text == "=" then replace else compound text

def operator (text : String) : Operator :=
  .ofText (String.ofList (text.toList.reverse.dropWhile (· == '=')).reverse)

end Assignment

/-- A statement, an expression or a block. Evaluation puts no restriction on which of them stands
where. In a `member`, the call of the member has a line of its own. -/
inductive Node where
  | sequence (line : Nat) (statements : List Node)
  | imports (line : Nat) (moduleName : String)
  | assign (line : Nat) (name : String) (form : Assignment) (value : Node)
  | binary (line : Nat) (op : Operator) (left right : Node)
  | unary (line : Nat) (op : Operator) (operand : Node)
  | int (line : Nat) (value : Int)
  | float (line : Nat) (value : Float)
  | string (line : Nat) (value : String)
  | reference (line : Nat) (name : String)
  | call (line : Nat) (name : String) (arguments : List Node)
  | member (line : Nat) (moduleName : String) (callLine : Nat) (name : String)
      (arguments : List Node)
  | array (line : Nat) (elements : List Node)
  | returns (line : Nat) (value : Option Node)
  | function (line : Nat) (name : String) (parameters : List String) (body : Node)
  | expression (line : Nat) (value : Node)
  | conditional (line : Nat) (condition thenBlock : Node) (elseNode : Option Node)
  | whileLoop (line : Nat) (condition body : Node)
  | forLoop (line : Nat) (element : String) (array body : Node)
  | bare (line : Nat)
  deriving Inhabited

namespace Node

def line : Node → Nat
  | sequence line _ | imports line _ | assign line .. | binary line .. | unary line .. | int line _
  | float line _ | string line _ | reference line _ | call line .. | member line .. | array line _
  | returns line _ | function line .. | expression line _ | conditional line .. | whileLoop line ..
  | forLoop line .. | bare line => line

def statements : Node → List Node
  | sequence _ statements => statements
  | _ => []

end Node

end Scriptlet
