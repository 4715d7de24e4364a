import Scriptlet.Fault

/-! A token list that is read by position: the index and the line reached are stored, and the
tokens stay in place. A `Cursor` does the same without counting through the list. -/

namespace Scriptlet

structure TokenStream where
  tokens : List Token
  index : Nat
  lastLine : Nat
  file : Option String

namespace TokenStream

def start (tokens : List Token) (file : Option String) : TokenStream :=
  { tokens := tokens
    index := 0
    lastLine := tokens.head?.elim 1 Token.line
    file := file }

def hasNext (stream : TokenStream) : Bool :=
  stream.index < stream.tokens.length

def peek? (stream : TokenStream) : Option Token :=
  if stream.hasNext then stream.tokens[stream.index]? else none

def lookahead? (stream : TokenStream) (offset : Int) : Option Token :=
  let position := stream.index + offset
  if 0 ≤ position ∧ position < stream.tokens.length then stream.tokens[position.toNat]? else none

/-- Moves on by one. The line reached stays as it is past the end. -/
def advance (stream : TokenStream) : TokenStream :=
  let reached := stream.peek?.elim stream.lastLine Token.line
  { stream with lastLine := reached, index := stream.index + 1 }

def take (stream : TokenStream) : Option Token × TokenStream :=
  match stream.peek? with
  | some token => (some token, stream.advance)
  | none => (none, stream)

def accept (stream : TokenStream) (kind : Token.Kind) (payload : Option Token.Payload) :
    Bool × TokenStream :=
  match stream.peek? with
  | some token => if token.fits kind payload then (true, stream.advance) else (false, stream)
  | none => (false, stream)

def fault (stream : TokenStream) (cause : Cause) : Fault :=
  { cause := cause, line := some stream.lastLine, file := stream.file }

/-- A token that does not fit is consumed all the same, and the fault is at its line. -/
def expect (stream : TokenStream) (kind : Token.Kind) (payload : Option Token.Payload) :
    Except Fault Token × TokenStream :=
  let wanted := (payload.map Token.Payload.shown).getD kind.shown
  let (found, stream) := stream.take
  match found with
  | none => (.error (stream.fault (.expected wanted none)), stream)
  | some token =>
      if token.fits kind payload then (.ok token, stream)
      else (.error (stream.fault (.expected wanted (some token))), stream)

end TokenStream

end Scriptlet
