import Scriptlet.Number.Shortest

/-! How a float is written: its shortest decimal, in positional or exponent form. -/

namespace Scriptlet.Number

/-- The choices of one written form. `positional` says for which exponents of the leading digit no
exponent is written; `exact` asks for every digit of an integral number; `point` keeps a decimal
point in an integral number. -/
structure Style where
  nan : String
  infinity : String
  exact : Bool
  point : Bool
  positional : Int → Bool

namespace Decimal

def zeros (count : Nat) : String :=
  String.ofList (List.replicate count '0')

def digitText (decimal : Decimal) : List Char :=
  Nat.toDigits 10 decimal.digits

/-- The exponent of the leading digit. -/
def magnitude (decimal : Decimal) : Int :=
  decimal.exponent + decimal.digitText.length - 1

def positional (point : Bool) (decimal : Decimal) : String :=
  let text := decimal.digitText
  if 0 ≤ decimal.exponent then
    String.ofList text ++ zeros decimal.exponent.toNat ++ (if point then ".0" else "")
  else
    let places := (-decimal.exponent).toNat
    if places < text.length then
      String.ofList (text.take (text.length - places)) ++ "." ++
        String.ofList (text.drop (text.length - places))
    else "0." ++ zeros (places - text.length) ++ String.ofList text

/-- One digit, the others behind a point, and an exponent of at least two digits. -/
def scientific (decimal : Decimal) : String :=
  let text := decimal.digitText
  let rest := text.drop 1
  let exponent := toString decimal.magnitude.natAbs
  String.ofList (text.take 1) ++ (if rest.isEmpty then "" else "." ++ String.ofList rest) ++ "e" ++
    (if decimal.magnitude < 0 then "-" else "+") ++ zeros (2 - exponent.length) ++ exponent

end Decimal

namespace Style

def writeFinite (style : Style) (value : Binary64) (mantissa : Nat) (exponent : Int) : String :=
  match style.exact, value.integer? with
  | true, some n => toString n
  | _, _ =>
      let decimal := Decimal.shortest mantissa exponent
      if style.positional decimal.magnitude then decimal.positional style.point
      else decimal.scientific

def write (style : Style) (x : Float) : String :=
  let sign (negative : Bool) := if negative then "-" else ""
  match Binary64.ofFloat x with
  | .nan => style.nan
  | .infinite negative => sign negative ++ style.infinity
  | .finite negative mantissa exponent =>
      sign negative ++ style.writeFinite (.finite negative mantissa exponent) mantissa exponent

end Style

end Scriptlet.Number
