import Scriptlet.Number.Binary64

/-! The shortest decimal that reads back as a given float. All reals between the midpoints to the
two neighbours of a float round to it, and so do the midpoints if the mantissa is even. The
shortest decimal lies on the coarsest grid of multiples of a power of ten that meets this interval,
and only the two grid points next to the float have to be tried. -/

namespace Scriptlet.Number

/-- The number `digits * 10 ^ exponent`. -/
structure Decimal where
  digits : Nat
  exponent : Int

namespace Decimal

/-- The grid point to take on the grid of multiples of `10 ^ power`, counted in grid steps. Lengths
are in quarters of the last place of the mantissa. Of two points in the interval the nearer wins,
and the even one if both are equally near. -/
def onGrid? (mantissa : Nat) (exponent power : Int) : Option Nat :=
  let (twoUp, twoDown) := powerRatio 2 (exponent - 2)
  let (tenUp, tenDown) := powerRatio 10 power
  let unit := twoUp * tenDown
  let step := twoDown * tenUp
  let narrow := mantissa == Nat.pow 2 52 && exponent != Binary64.leastExponent
  let value := 4 * mantissa * unit
  let low := (4 * mantissa - if narrow then 1 else 2) * unit
  let high := (4 * mantissa + 2) * unit
  let inside (point : Nat) : Bool :=
    if mantissa % 2 == 0 then low ≤ point && point ≤ high else low < point && point < high
  let below := value / step
  let above := below + 1
  match inside (below * step), inside (above * step) with
  | false, false => none
  | true, false => some below
  | false, true => some above
  | true, true =>
      let undershoot := value - below * step
      let overshoot := above * step - value
      some (if undershoot < overshoot || (undershoot == overshoot && below % 2 == 0) then below
        else above)

/-- The coarsest grid with a point in the interval, from `power` downwards. -/
def search (mantissa : Nat) (exponent : Int) : (fuel : Nat) → (power : Int) → Decimal
  | 0, _ => ⟨0, 0⟩
  | fuel + 1, power =>
      match onGrid? mantissa exponent power with
      | some digits => ⟨digits, power⟩
      | none => search mantissa exponent fuel (power - 1)

/-- The shortest decimal for `mantissa * 2 ^ exponent`. The search starts at a power of ten above
the number, found from its bit length, and seventeen digits always suffice. -/
def shortest (mantissa : Nat) (exponent : Int) : Decimal :=
  if mantissa == 0 then ⟨0, 0⟩
  else search mantissa exponent 25 ((mantissa.log2 + exponent + 1) * 1233 / 4096 + 2)

end Decimal

end Scriptlet.Number
