import Scriptlet.Grammar.Basic

/-! Expressions. Operators of one precedence group to the right: `1 - 2 - 3` is `1 - (2 - 3)`. -/

namespace Scriptlet.Grammar

def arrayLiteral (item : Parser Node) : Parser Node := do
  let (line, elements) ← bracketed .openBracket .closeBracket item
  return .array line elements

def functionCall (item : Parser Node) : Parser Node := do
  let (name, line) ← expectName
  let (_, arguments) ← bracketed .openParen .closeParen item
  return .call line name arguments

/-- A call of a module's member; the double colon may be left out. -/
def moduleAccess (item : Parser Node) : Parser Node := do
  let (moduleName, line) ← expectName
  let _ ← accept .doubleColon none
  let (name, callLine) ← expectName
  let (_, arguments) ← bracketed .openParen .closeParen item
  return .member line moduleName callLine name arguments

def binaryOperator? (token : Token) : Option (Operator × Nat) :=
  match token.operator? with
  | some op => op.precedence?.map fun precedence => (op, precedence)
  | none => none

/-- Folds operators that bind at `floor` or tighter into `left`. The right operand of each is read
with the operator's own precedence as its floor. -/
def climb (operand : Nat → Parser Node) (floor : Nat) :
    (rounds : List Token) → (left : Node) → Parser Node
  | [], left => return left
  | _ :: rounds, left => do
      match ← peek? with
      | none => return left
      | some token =>
          match binaryOperator? token with
          | none => return left
          | some (op, precedence) =>
              if precedence < floor then return left
              else
                advance
                let right ← operand precedence
                climb operand floor rounds (.binary token.line op left right)

mutual

def primary : (depth : Nat) → Parser Node
  | 0 => tooDeep
  | depth + 1 => do
      match ← peek? with
      | none => fail (.outOfTokens .primary)
      | some token =>
          match token.kind, token.payload with
          | .operator, some (.text text) =>
              if (Operator.ofText text).isUnary then
                advance
                let operand ← expression depth Operator.unaryPrecedence
                return .unary token.line (Operator.ofText text) operand
              else fail (.unexpectedInExpression token)
          | .openBracket, _ => arrayLiteral (expression depth 0)
          | .integer, some (.integer value) =>
              advance
              return .int token.line value
          | .float, some (.float value) =>
              advance
              return .float token.line value
          | .string, some (.text text) =>
              advance
              return .string token.line text
          | .identifier, some (.text name) =>
              match ← nextKind? with
              | some .openParen => functionCall (expression depth 0)
              | some .doubleColon => moduleAccess (expression depth 0)
              | _ =>
                  advance
                  return .reference token.line name
          | .openParen, _ =>
              advance
              let node ← expression depth 0
              let _ ← expect .closeParen
              return node
          | _, _ => fail (.unexpectedInExpression token)

/-- An expression whose operators, outside parentheses, all bind at `floor` or tighter. -/
def expression : (depth : Nat) → (floor : Nat) → Parser Node
  | 0, _ => tooDeep
  | depth + 1, floor => do
      let left ← primary depth
      climb (expression depth) floor (← remaining) left

end

end Scriptlet.Grammar
