import Scriptlet.Text.Printable

/-! Text in quotes, as diagnostics show it: single quotes, or double ones around a text that has
single quotes and no double ones; the quote in use, backslashes and unprintable characters are
escaped. -/

namespace Scriptlet.Text

/-- `count` hexadecimal digits of `n`, from the least significant up. -/
def hexDigits : (count : Nat) → (n : Nat) → List Char → List Char
  | 0, _, tail => tail
  | count + 1, n, tail => hexDigits count (n / 16) (Nat.digitChar (n % 16) :: tail)

def escapeCode (c : Char) : List Char :=
  if c.toNat < 0x100 then '\\' :: 'x' :: hexDigits 2 c.toNat []
  else if c.toNat < 0x10000 then '\\' :: 'u' :: hexDigits 4 c.toNat []
  else '\\' :: 'U' :: hexDigits 8 c.toNat []

def escapeChar (quote c : Char) : List Char :=
  if c == quote || c == '\\' then ['\\', c]
  else if c == '\n' then ['\\', 'n']
  else if c == '\r' then ['\\', 'r']
  else if c == '\t' then ['\\', 't']
  else if isPrintable c then [c]
  else escapeCode c

def quoted (text : String) : String :=
  let chars := text.toList
  let quote := if chars.contains '\'' && !chars.contains '\"' then '\"' else '\''
  String.ofList (quote :: chars.flatMap (escapeChar quote) ++ [quote])

end Scriptlet.Text
