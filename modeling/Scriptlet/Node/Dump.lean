import Scriptlet.Node
import Scriptlet.Token

/-! A dump of a syntax tree, as debugging output shows it. -/

namespace Scriptlet

/-- Items in parentheses; a single one is followed by a comma. -/
def dumpTuple : List String → String
  | [] => "()"
  | [item] => "(" ++ item ++ ",)"
  | items => "(" ++ ", ".intercalate items ++ ")"

def dumpFields (name : String) (line : Nat) (fields : List (String × String)) : String :=
  name ++ "(" ++ ", ".intercalate
    (("line=" ++ toString line) :: fields.map fun field => field.1 ++ "=" ++ field.2) ++ ")"

namespace Node

mutual

def dump : Node → String
  | sequence line statements =>
      dumpFields "StatementSequence" line [("nodes", dumpTuple (dumpAll statements))]
  | imports line moduleName => dumpFields "Import" line [("module_name", Text.quoted moduleName)]
  | assign line name form value =>
      dumpFields "VariableAssign" line
        [("name", Text.quoted name), ("op", Text.quoted form.text), ("expr", dump value)]
  | binary line op left right =>
      dumpFields "BinaryExpr" line [("op", op.dump), ("left", dump left), ("right", dump right)]
  | unary line op operand =>
      dumpFields "UnaryExpr" line [("op", op.dump), ("operand", dump operand)]
  | int line value => dumpFields "IntLiteral" line [("value", toString value)]
  | float line value => dumpFields "FloatLiteral" line [("value", Token.floatStyle.write value)]
  | string line value => dumpFields "StringLiteral" line [("value", Text.quoted value)]
  | reference line name => dumpFields "VariableRef" line [("name", Text.quoted name)]
  | call line name arguments =>
      dumpFields "FunctionCall" line
        [("name", Text.quoted name), ("args", dumpTuple (dumpAll arguments))]
  | member line moduleName callLine name arguments =>
      dumpFields "ModuleAccess" line
        [("module_name", Text.quoted moduleName),
          ("call", dumpFields "FunctionCall" callLine
            [("name", Text.quoted name), ("args", dumpTuple (dumpAll arguments))])]
  | array line elements =>
      dumpFields "ArrayLiteral" line [("elements", dumpTuple (dumpAll elements))]
  | returns line none => dumpFields "Return" line [("expr", "None")]
  | returns line (some value) => dumpFields "Return" line [("expr", dump value)]
  | function line name parameters body =>
      dumpFields "FunctionDeclare" line
        [("name", Text.quoted name), ("params", dumpTuple (parameters.map Text.quoted)),
          ("body", dump body)]
  | expression line value => dumpFields "ExpressionStatement" line [("expr", dump value)]
  | conditional line condition thenBlock none =>
      dumpFields "If" line
        [("condition", dump condition), ("then_block", dump thenBlock), ("else_node", "None")]
  | conditional line condition thenBlock (some elseNode) =>
      dumpFields "If" line
        [("condition", dump condition), ("then_block", dump thenBlock),
          ("else_node", dump elseNode)]
  | whileLoop line condition body =>
      dumpFields "While" line [("condition", dump condition), ("body", dump body)]
  | forLoop line element elements body =>
      dumpFields "For" line
        [("element_name", Text.quoted element), ("array_expr", dump elements), ("body", dump body)]
  | bare line => dumpFields "Node" line []

def dumpAll : List Node → List String
  | [] => []
  | node :: rest => dump node :: dumpAll rest

end

end Node

end Scriptlet
