/-! The signed 64-bit range. -/

namespace Scriptlet.Number

def wordMin : Int := -(Int.pow 2 63)

def wordMax : Int := Int.pow 2 63 - 1

def fitsWord (n : Int) : Bool :=
  wordMin ≤ n && n ≤ wordMax

/-- The integer of the signed 64-bit range that agrees with `n` modulo `2 ^ 64`. -/
def wrapWord (n : Int) : Int :=
  n.bmod (Nat.pow 2 64)

end Scriptlet.Number
