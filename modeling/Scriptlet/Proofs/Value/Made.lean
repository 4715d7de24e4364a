import Scriptlet.Value.Arithmetic

/-!
What operators make. A nil operand makes nil; apart from that they make no nil and no arrays, and
integers that fit a signed 64-bit word if the left operand does. Most integers are checked; the
remainder and the powers of 0, 1 and -1 are not, and need not be.
-/

namespace Scriptlet

namespace Number

theorem fitsWord_iff {n : Int} :
    fitsWord n = true ↔ -9223372036854775808 ≤ n ∧ n ≤ 9223372036854775807 := by
  have least : wordMin = -9223372036854775808 := rfl
  have greatest : wordMax = 9223372036854775807 := rfl
  simp [fitsWord, least, greatest]

theorem fitsWord_wrapWord (n : Int) : fitsWord (wrapWord n) = true := by
  have size : Nat.pow 2 64 = 18446744073709551616 := rfl
  have low := @Int.le_bmod n 18446744073709551616 (by decide)
  have high := @Int.bmod_lt n 18446744073709551616 (by decide)
  rw [fitsWord_iff, wrapWord, size]
  omega

/-- The remainder has the sign of the dividend and is no greater. -/
theorem fitsWord_tmod {x : Int} (fits : fitsWord x = true) (y : Int) :
    fitsWord (x.tmod y) = true := by
  rw [fitsWord_iff] at fits ⊢
  have size : (x.tmod y).natAbs ≤ x.natAbs := by
    rw [Int.natAbs_tmod]
    exact Nat.mod_le _ _
  by_cases negative : x < 0
  · have sign := Int.tmod_nonneg y (show 0 ≤ -x by omega)
    rw [Int.neg_tmod] at sign
    omega
  · have sign := Int.tmod_nonneg y (show 0 ≤ x by omega)
    omega

end Number

namespace Value

/-- The values other than nil and arrays, with integers that fit a word if `bounded` holds. -/
inductive Made (bounded : Prop) : Value → Prop
  | invalid : Made bounded .invalid
  | int {n : Int} : (bounded → Number.fitsWord n = true) → Made bounded (.int n)
  | float {x : Float} : Made bounded (.float x)
  | bool {holds : Bool} : Made bounded (.bool holds)
  | string {text : String} : Made bounded (.string text)

variable {bounded : Prop}

theorem made_of_checked {op : Operator} {n : Int} {result : Value}
    (checks : checked op n = .ok result) : result.Made bounded := by
  unfold checked at checks
  split at checks
  next fits =>
    cases checks
    exact .int fun _ => fits
  next => cases checks

end Value

namespace Operator

open Value

variable {bounded : Prop} {op : Operator} {result : Value}

theorem next_of_quotient {x y : Int} {next : Int → Except Cause Value}
    (applied : quotient op x y >>= next = .ok result) : next (x.tdiv y) = .ok result := by
  unfold quotient at applied
  split at applied
  · cases applied
  · exact applied

theorem made_of_raise {x y : Int} (fits : bounded → Number.fitsWord x = true)
    (raised : raise x y = .ok result) : result.Made bounded := by
  unfold raise at raised
  dsimp only at raised
  split at raised
  · cases raised
    exact .int fun _ => by decide
  · split at raised
    · cases raised
      exact .int fits
    · split at raised
      · cases raised
        refine .int fun _ => ?_
        split
        · decide
        · decide
      · split at raised
        · cases raised
        · exact made_of_checked raised

theorem made_of_applyInts {x y : Int} (fits : bounded → Number.fitsWord x = true)
    (applied : op.applyInts x y = .ok result) : result.Made bounded := by
  cases op with
  | add | subtract | multiply => exact made_of_checked applied
  | divide => exact made_of_checked (next_of_quotient applied)
  | modulo =>
      cases next_of_quotient applied
      rw [← Int.tmod_def]
      exact .int fun holds => Number.fitsWord_tmod (fits holds) y
  | power => exact made_of_raise fits applied
  | equal | notEqual | greater | less | greaterEqual | lessEqual =>
      cases applied
      exact .bool
  | and | or | not | unknown => cases applied

theorem made_of_applyFloats {x y : Float} (applied : op.applyFloats x y = .ok result) :
    result.Made bounded := by
  cases op with
  | add | subtract | multiply | divide | modulo | power =>
      cases applied
      exact .float
  | equal | notEqual | greater | less | greaterEqual | lessEqual =>
      cases applied
      exact .bool
  | and | or | not | unknown => cases applied

theorem made_of_apply {left right : Value}
    (fits : ∀ x, left = .int x → bounded → Number.fitsWord x = true)
    (applied : op.apply left right = .ok result) :
    result = .nil ∧ (left = .nil ∨ right = .nil) ∨ result.Made bounded := by
  unfold apply at applied
  split at applied
  · cases applied
    exact .inl ⟨rfl, .inl rfl⟩
  · cases applied
    exact .inl ⟨rfl, .inr rfl⟩
  · refine .inr ?_
    unfold applyPresent at applied
    split at applied
    · cases applied
      exact .invalid
    · cases applied
      exact .invalid
    · exact made_of_applyInts (fits _ rfl) applied
    · exact made_of_applyFloats applied
    · cases applied
      exact .string
    · cases applied
      exact .bool
    · cases applied
      exact .bool
    · cases applied

theorem made_of_applyUnary {operand : Value} (applied : op.applyUnary operand = .ok result) :
    result.Made bounded := by
  unfold applyUnary at applied
  split at applied
  · cases applied
    exact .bool
  · exact made_of_checked applied
  · cases applied
    exact .float
  · cases applied

end Operator

end Scriptlet
