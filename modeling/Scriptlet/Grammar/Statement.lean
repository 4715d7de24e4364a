import Scriptlet.Grammar.Expression

/-! Statements and programs. -/

namespace Scriptlet.Grammar

def condition (item : Parser Node) : Parser Node := do
  let _ ← expect .openParen
  let node ← item
  let _ ← expect .closeParen
  return node

def whileLoop (item block : Parser Node) : Parser Node := do
  let line ← currentLine
  let _ ← accept .keyword (some "while")
  let test ← condition item
  let body ← block
  return .whileLoop line test body

def forLoop (item block : Parser Node) : Parser Node := do
  let line ← currentLine
  let _ ← accept .keyword (some "for")
  let _ ← expect .openParen
  match ← take? with
  | none => fail (.outOfTokens .forLoop)
  | some token =>
      match token.identifier? with
      | none => fail (.badElementName token)
      | some element =>
          let _ ← expect .closeParen
          let array ← condition item
          let body ← block
          return .forLoop line element array body

def parameters : (rounds : List Token) → Parser (List String)
  | [] => fail (.outOfTokens .parameters)
  | _ :: rounds => do
      match ← peek? with
      | none => fail (.outOfTokens .parameters)
      | some token =>
          if token.kind == .closeParen then return []
          else
            match token.identifier? with
            | none => fail (.badParameter token)
            | some name =>
                advance
                let _ ← accept .comma none
                let others ← parameters rounds
                return name :: others

def functionDefinition (block : Parser Node) : Parser Node := do
  let _ ← accept .keyword (some "fun")
  let (name, line) ← expectName
  let _ ← expect .openParen
  let names ← parameters (← remaining)
  let _ ← expect .closeParen
  let body ← block
  return .function line name names body

def returnStatement (item : Parser Node) : Parser Node := do
  let line ← currentLine
  let _ ← accept .keyword (some "return")
  match ← peek? with
  | none => fail (.outOfTokens .returnStatement)
  | some token =>
      if token.kind == .semicolon then
        let _ ← expect .semicolon
        return .returns line none
      else
        let value ← item
        let _ ← expect .semicolon
        return .returns line (some value)

def importStatement : Parser Node := do
  let _ ← accept .keyword (some "import")
  match ← take? with
  | none => fail (.outOfTokens .moduleImport)
  | some token =>
      match token.identifier? with
      | none => fail (.badModuleName token)
      | some moduleName =>
          let _ ← expect .semicolon
          return .imports token.line moduleName

def assignmentForm? (token : Token) : Option Assignment :=
  match token.kind with
  | .define => some .define
  | .assign => some .replace
  | .compoundAssign => token.text?.map Assignment.ofText
  | _ => none

def assignment (item : Parser Node) : Parser Node := do
  let (name, line) ← expectName
  match ← take? with
  | none => fail (.outOfTokens .assignment)
  | some token =>
      match assignmentForm? token with
      | none => fail (.badAssignment token)
      | some form =>
          let value ← item
          let _ ← expect .semicolon
          return .assign line name form value

def expressionStatement (item : Parser Node) : Parser Node := do
  let value ← item
  let _ ← expect .semicolon
  return .expression value.line value

def assigns (kind : Token.Kind) : Bool :=
  kind == .define || kind == .assign || kind == .compoundAssign

/-- The kinds of token that an expression statement may begin with. An array literal has to stand
in parentheses. -/
def startsExpression (kind : Token.Kind) : Bool :=
  kind == .openParen || kind == .integer || kind == .float || kind == .string ||
    kind == .identifier || kind == .operator

def plainStatement (item : Parser Node) (token : Token) : Parser Node := do
  let next ← nextKind?
  if token.kind == .identifier && next.any assigns then assignment item
  else if startsExpression token.kind then expressionStatement item
  else fail (.unexpectedStatement token)

mutual

def sequence : (depth : Nat) → Parser Node
  | 0 => tooDeep
  | depth + 1 => do
      let line ← currentLine
      let statements ← itemsUntil .closeBrace (statement depth) (← remaining)
      return .sequence line statements

def block : (depth : Nat) → Parser Node
  | 0 => tooDeep
  | depth + 1 => do
      let _ ← expect .openBrace
      let body ← sequence depth
      let _ ← expect .closeBrace
      return body

/-- An `if` with the branches after it; an `elif` is a conditional in the else position. -/
def conditional : (depth : Nat) → Parser Node
  | 0 => tooDeep
  | depth + 1 => do
      let line ← currentLine
      let _ ← accept .keyword (some "if")
      let test ← condition (expression depth 0)
      let thenBlock ← block depth
      if ← accept .keyword (some "elif") then
        let elseNode ← conditional depth
        return .conditional line test thenBlock (some elseNode)
      else if ← accept .keyword (some "else") then
        let elseNode ← block depth
        return .conditional line test thenBlock (some elseNode)
      else return .conditional line test thenBlock none

def statement : (depth : Nat) → Parser Node
  | 0 => tooDeep
  | depth + 1 => do
      match ← peek? with
      | none => fail (.outOfTokens .statement)
      | some token =>
          noteStart token
          match token.kind with
          | .keyword =>
              match token.text? with
              | some "if" => conditional depth
              | some "while" => whileLoop (expression depth 0) (block depth)
              | some "for" => forLoop (expression depth 0) (block depth)
              | some "fun" => functionDefinition (block depth)
              | some "return" => returnStatement (expression depth 0)
              | some "import" => importStatement
              | text => fail (.strayKeyword (text.getD "None"))
          | _ => plainStatement (expression depth 0) token

end

def program (depth : Nat) : Parser Node := do
  let node ← sequence depth
  match ← peek? with
  | some token => fail (.outsideBlock token)
  | none => return node

/-- The levels that rules may nest under a recursion limit: each takes two units of it. -/
def depthOf (limit : Nat) : Nat :=
  limit / 2

end Scriptlet.Grammar

namespace Scriptlet

def Parser.run {α : Type} (parser : Parser α) (tokens : List Token) (file : Option String) :
    Except Fault α × Grammar.State :=
  match ExceptT.run parser { cursor := .start tokens file } with
  | (.ok result, state) => (.ok result, state)
  | (.error (.fault fault), state) => (.error fault, state)
  | (.error .tooDeep, state) => (.error (state.cursor.fault .nestingTooDeep), state)

def Node.parse (limit : Nat) (tokens : List Token) (file : Option String) :
    Except Fault Node × Grammar.State :=
  (Grammar.program (Grammar.depthOf limit)).run tokens file

end Scriptlet
