import Scriptlet.Fault

/-! A cursor over a token list. The tokens already consumed are kept, most recent first, so that
the cursor knows its position and the line it has reached. -/

namespace Scriptlet

/-- `overrun` counts the moves made past the end; `file` is named in diagnostics. -/
structure Cursor where
  consumed : List Token := []
  ahead : List Token
  overrun : Nat := 0
  file : Option String := none

namespace Cursor

def start (tokens : List Token) (file : Option String) : Cursor :=
  { ahead := tokens, file := file }

def tokens (cursor : Cursor) : List Token :=
  cursor.consumed.reverse ++ cursor.ahead

def index (cursor : Cursor) : Nat :=
  cursor.consumed.length + cursor.overrun

def lastLine (cursor : Cursor) : Nat :=
  match cursor.consumed, cursor.ahead with
  | token :: _, _ => token.line
  | [], token :: _ => token.line
  | [], [] => 1

def peek? (cursor : Cursor) : Option Token :=
  cursor.ahead.head?

def hasNext (cursor : Cursor) : Bool :=
  !cursor.ahead.isEmpty

/-- The token `offset` places from the cursor, which may lie behind it. -/
def lookahead? (cursor : Cursor) (offset : Int) : Option Token :=
  if 0 ≤ offset then cursor.ahead[offset.toNat]?
  else
    let back := (-offset).toNat
    if back ≤ cursor.overrun then none else cursor.consumed[back - cursor.overrun - 1]?

def advance (cursor : Cursor) : Cursor :=
  match cursor.ahead with
  | token :: rest => { cursor with consumed := token :: cursor.consumed, ahead := rest }
  | [] => { cursor with overrun := cursor.overrun + 1 }

def take (cursor : Cursor) : Option Token × Cursor :=
  match cursor.peek? with
  | some token => (some token, cursor.advance)
  | none => (none, cursor)

def accept (cursor : Cursor) (kind : Token.Kind) (payload : Option Token.Payload) :
    Bool × Cursor :=
  match cursor.peek? with
  | some token => if token.fits kind payload then (true, cursor.advance) else (false, cursor)
  | none => (false, cursor)

def fault (cursor : Cursor) (cause : Cause) : Fault :=
  { cause := cause, line := some cursor.lastLine, file := cursor.file }

/-- Consumes the current token, which has to fit. A token that does not is consumed all the same. -/
def expect (cursor : Cursor) (kind : Token.Kind) (payload : Option Token.Payload) :
    Except Fault Token × Cursor :=
  let wanted := (payload.map Token.Payload.shown).getD kind.shown
  let (found, cursor) := cursor.take
  match found with
  | none => (.error (cursor.fault (.expected wanted none)), cursor)
  | some token =>
      if token.fits kind payload then (.ok token, cursor)
      else (.error (cursor.fault (.expected wanted (some token))), cursor)

end Cursor

end Scriptlet
