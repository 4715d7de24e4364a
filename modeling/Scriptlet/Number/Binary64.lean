/-! Exact arithmetic on 64-bit floats: a finite one is an integer times a power of two. -/

namespace Scriptlet.Number

/-- A 64-bit float taken apart; a finite one stands for `± mantissa * 2 ^ exponent`. -/
inductive Binary64 where
  | nan
  | infinite (negative : Bool)
  | finite (negative : Bool) (mantissa : Nat) (exponent : Int)

/-- A power of two or ten with any integer exponent, as numerator and denominator. -/
def powerRatio (base : Nat) (exponent : Int) : Nat × Nat :=
  (base.pow exponent.toNat, base.pow (-exponent).toNat)

/-- The integer nearest to a quotient; of two equally near, the even one. -/
def nearestQuotient (numerator denominator : Nat) : Nat :=
  let quotient := numerator / denominator
  let twice := 2 * (numerator % denominator)
  if twice < denominator || (twice == denominator && quotient % 2 == 0) then quotient
  else quotient + 1

namespace Binary64

def leastExponent : Int := -1074

def infinityBits : Nat := 0x7FF0000000000000

def ofFloat (x : Float) : Binary64 :=
  let bits := x.toBits.toNat
  let negative := bits / Nat.pow 2 63 == 1
  let scale : Nat := bits / Nat.pow 2 52 % Nat.pow 2 11
  let fraction := bits % Nat.pow 2 52
  if scale == 2047 then
    if fraction == 0 then .infinite negative else .nan
  else if scale == 0 then .finite negative fraction leastExponent
  else .finite negative (fraction + Nat.pow 2 52) ((scale : Int) - 1075)

/-- The bits of the float nearest to a non-negative quotient. The exponent is the one that leaves
53 bits before rounding, or the least exponent; a carry out of the mantissa moves into the exponent
field by itself. -/
def nearestBits (numerator denominator : Nat) : Nat :=
  if numerator == 0 then 0
  else
    let quotientAt (exponent : Int) : Nat × Nat :=
      let (up, down) := powerRatio 2 exponent
      (numerator * down, denominator * up)
    let low : Int := (numerator.log2 : Int) - denominator.log2 - 53
    let (top, bottom) := quotientAt low
    let exponent := max leastExponent (if top / bottom < Nat.pow 2 53 then low else low + 1)
    let (top, bottom) := quotientAt exponent
    min infinityBits ((exponent - leastExponent).toNat * Nat.pow 2 52 + nearestQuotient top bottom)

def ofBits (negative : Bool) (bits : Nat) : Float :=
  Float.ofBits (UInt64.ofNat (if negative then Nat.pow 2 63 + bits else bits))

def nearest (negative : Bool) (numerator denominator : Nat) : Float :=
  ofBits negative (nearestBits numerator denominator)

def equalsInt (value : Binary64) (n : Int) : Bool :=
  match value with
  | .finite negative mantissa exponent =>
      let (up, down) := powerRatio 2 exponent
      (if negative then -(mantissa : Int) else mantissa) * up == n * down
  | _ => false

def integer? : Binary64 → Option Nat
  | .finite _ mantissa exponent =>
      let (up, down) := powerRatio 2 exponent
      if mantissa % down == 0 then some (mantissa / down * up) else none
  | _ => none

/-- The remainder of a division that truncates, exact, with the sign of the dividend. -/
def remainder (x y : Float) : Float :=
  match ofFloat x, ofFloat y with
  | .finite negative dividend exponent, .finite _ divisor exponent' =>
      if divisor == 0 then ofBits false (infinityBits + Nat.pow 2 51)
      else
        let least := min exponent exponent'
        let rest := dividend * Nat.pow 2 (exponent - least).toNat %
          (divisor * Nat.pow 2 (exponent' - least).toNat)
        let (up, down) := powerRatio 2 least
        nearest negative (rest * up) down
  | .finite .., .infinite _ => x
  | _, _ => ofBits false (infinityBits + Nat.pow 2 51)

end Binary64

end Scriptlet.Number
