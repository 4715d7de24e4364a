import Scriptlet.Text.Blank
import Scriptlet.Text.Letter
import Scriptlet.Text.Numeric
import Scriptlet.Token

/-! The classes of characters that decide where a token ends. -/

namespace Scriptlet.Token

inductive CharClass where
  | letter
  | numeric
  | quote
  | bracket (kind : Kind)
  | symbol
  | blank
  deriving DecidableEq, Repr

namespace CharClass

def bracket? (c : Char) : Option Kind :=
  match c with
  | '(' => some .openParen
  | ')' => some .closeParen
  | '\x7b' => some .openBrace
  | '\x7d' => some .closeBrace
  | '[' => some .openBracket
  | ']' => some .closeBracket
  | _ => none

def ofChar (c : Char) : CharClass :=
  if Text.isLetter c || c == '_' then letter
  else if Text.isNumeric c || c == '.' then numeric
  else if c == '\"' then quote
  else
    match bracket? c with
    | some kind => bracket kind
    | none => if Text.isBlank c then blank else symbol

end CharClass

end Scriptlet.Token
