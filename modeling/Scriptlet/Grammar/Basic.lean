import Scriptlet.Cursor
import Scriptlet.Node

/-! What every rule of the grammar is built from. A rule moves a cursor and either gives a result
or halts; the cursor is kept in both cases. Rules that call each other take the number of levels
they may still go down. -/

namespace Scriptlet

namespace Grammar

inductive Halt where
  | fault (fault : Fault)
  | tooDeep

/-- `starts` are the tokens at which a statement began, last first. -/
structure State where
  cursor : Cursor
  starts : List Token := []

end Grammar

abbrev Parser := ExceptT Grammar.Halt (StateM Grammar.State)

namespace Grammar

def peek? : Parser (Option Token) :=
  return (← get).cursor.peek?

def nextKind? : Parser (Option Token.Kind) :=
  return ((← get).cursor.lookahead? 1).map Token.kind

/-- The tokens left. A loop that consumes a token in every round counts its rounds off on them. -/
def remaining : Parser (List Token) :=
  return (← get).cursor.ahead

def advance : Parser Unit :=
  modify fun state => { state with cursor := state.cursor.advance }

def fail {α : Type} (cause : Cause) : Parser α := do
  throw (.fault ((← get).cursor.fault cause))

def tooDeep {α : Type} : Parser α :=
  throw .tooDeep

def take? : Parser (Option Token) := do
  let state ← get
  let (token, cursor) := state.cursor.take
  set { state with cursor := cursor }
  return token

def accept (kind : Token.Kind) (text : Option String) : Parser Bool := do
  let state ← get
  let (accepted, cursor) := state.cursor.accept kind (text.map Token.Payload.text)
  set { state with cursor := cursor }
  return accepted

def expect (kind : Token.Kind) : Parser Token := do
  let state ← get
  let (result, cursor) := state.cursor.expect kind none
  set { state with cursor := cursor }
  match result with
  | .ok token => return token
  | .error fault => throw (.fault fault)

def expectName : Parser (String × Nat) := do
  let token ← expect .identifier
  match token.text? with
  | some name => return (name, token.line)
  | none => fail (.expected Token.Kind.identifier.shown (some token))

def currentLine : Parser Nat := do
  match ← peek? with
  | some token => return token.line
  | none => return (← get).cursor.lastLine

def noteStart (token : Token) : Parser Unit :=
  modify fun state => { state with starts := token :: state.starts }

/-- Items up to a token of kind `close`, which is left alone, or up to the end. -/
def itemsUntil (close : Token.Kind) (item : Parser Node) :
    (rounds : List Token) → Parser (List Node)
  | [] => return []
  | _ :: rounds => do
      match ← peek? with
      | none => return []
      | some token =>
          if token.kind == close then return []
          else
            let first ← item
            let others ← itemsUntil close item rounds
            return first :: others

def commaItem (item : Parser Node) : Parser Node := do
  let node ← item
  let _ ← accept .comma none
  return node

def bracketed (opening close : Token.Kind) (item : Parser Node) : Parser (Nat × List Node) := do
  let first ← expect opening
  let items ← itemsUntil close (commaItem item) (← remaining)
  let _ ← expect close
  return (first.line, items)

end Grammar

end Scriptlet
