import Mathlib.Data.Int.Bitwise
import Mathlib.Data.Rat.Floor
import Scriptlet.Proofs.Value.Made

/-!
Integer operators are exact or fail. The results they give are those of the integers, and of the
rationals for quotients; a result that no word holds is an overflow, never another word.
-/

namespace Scriptlet

namespace Number

def words : Set Int :=
  {n | -2 ^ 63 ≤ n ∧ n ≤ 2 ^ 63 - 1}

theorem mem_words_iff {n : Int} : n ∈ words ↔ fitsWord n = true := by
  rw [fitsWord_iff, words, Set.mem_ofPred_eq]
  norm_num

def truncated (x : Rat) : Int :=
  if 0 ≤ x then ⌊x⌋ else ⌈x⌉

theorem truncated_neg (x : Rat) : truncated (-x) = -truncated x := by
  unfold truncated
  rcases lt_trichotomy x 0 with negative | rfl | positive
  · rw [if_pos (by linarith), if_neg (by linarith), Int.floor_neg]
  · simp
  · rw [if_neg (by linarith), if_pos (by linarith), Int.ceil_neg]

theorem tdiv_eq_truncated (a b : Int) : a.tdiv b = truncated (a / b) := by
  have naturals (m n : Nat) : (m : Int).tdiv n = truncated (m / n) := by
    have nonneg : (0 : Rat) ≤ m / n := by positivity
    have floor := Rat.floor_intCast_div_natCast m n
    rw [Int.cast_natCast] at floor
    rw [truncated, if_pos nonneg, floor, Int.tdiv_eq_ediv_of_nonneg (Int.natCast_nonneg m)]
  obtain ⟨m, rfl | rfl⟩ := a.eq_nat_or_neg
  · obtain ⟨n, rfl | rfl⟩ := b.eq_nat_or_neg
    · simpa using naturals m n
    · simpa [Int.tdiv_neg, div_neg, truncated_neg] using naturals m n
  · obtain ⟨n, rfl | rfl⟩ := b.eq_nat_or_neg
    · simpa [Int.neg_tdiv, neg_div, truncated_neg] using naturals m n
    · simpa [Int.neg_tdiv, Int.tdiv_neg] using naturals m n

/-- Division toward zero divides the magnitudes and puts the sign back. -/
theorem tdiv_eq_magnitudes (a b : Int) :
    a.tdiv b = if (a < 0 ↔ b < 0) then |a| / |b| else -(|a| / |b|) := by
  by_cases left : a < 0 <;> by_cases right : b < 0
  · rw [if_pos (by simp [left, right]), abs_of_neg left, abs_of_neg right,
      ← Int.tdiv_eq_ediv_of_nonneg (by omega), Int.neg_tdiv_neg]
  · rw [if_neg (by simp [left, right]), abs_of_neg left, abs_of_nonneg (by omega),
      ← Int.tdiv_eq_ediv_of_nonneg (by omega), Int.neg_tdiv, neg_neg]
  · rw [if_neg (by simp [left, right]), abs_of_nonneg (by omega), abs_of_neg right,
      ← Int.tdiv_eq_ediv_of_nonneg (by omega), Int.tdiv_neg, neg_neg]
  · rw [if_pos (by simp [left, right]), abs_of_nonneg (by omega), abs_of_nonneg (by omega),
      ← Int.tdiv_eq_ediv_of_nonneg (by omega)]

/-- The lowest bits of an integer in two's complement are its remainder. -/
theorem land_mask (n : Int) (bits : Nat) :
    Int.land n (2 ^ bits - 1 : Nat) = n % (2 ^ bits : Nat) := by
  have positive : 0 < 2 ^ bits := Nat.two_pow_pos bits
  cases n with
  | ofNat m => exact congrArg Int.ofNat (Nat.and_two_pow_sub_one_eq_mod m bits)
  | negSucc m =>
      have flipped : Nat.ldiff (2 ^ bits - 1) m = 2 ^ bits - (m % 2 ^ bits + 1) := by
        refine Nat.eq_of_testBit_eq fun i => ?_
        rw [Nat.testBit_ldiff, Nat.testBit_two_pow_sub_one,
          Nat.testBit_two_pow_sub_succ (Nat.mod_lt m positive), Nat.testBit_mod_two_pow]
        cases decide (i < bits) <;> simp
      have below := Nat.mod_lt m positive
      rw [Int.negSucc_emod m (Int.natCast_pos.mpr positive)]
      change ((Nat.ldiff (2 ^ bits - 1) m : Nat) : Int) = _
      rw [flipped]
      omega

theorem land_wrapWord (n : Int) : Int.land (wrapWord n) 0xFFFFFFFF = n % 2 ^ 32 := by
  have mask := land_mask (wrapWord n) 32
  rw [wrapWord] at mask ⊢
  have divides : ((2 ^ 32 : Nat) : Int) ∣ (Nat.pow 2 64 : Nat) := by decide
  rw [← Int.emod_emod_of_dvd _ divides, Int.bmod_emod, Int.emod_emod_of_dvd _ divides] at mask
  exact mask

/-- The one quotient of words that is no word is the negation of the least word. -/
theorem tdiv_mem_words_iff {a b : Int} (fits : a ∈ words) :
    a.tdiv b ∈ words ↔ ¬ (a = -2 ^ 63 ∧ b = -1) := by
  rw [mem_words_iff, fitsWord_iff] at fits ⊢
  have size : (a.tdiv b).natAbs = a.natAbs / b.natAbs := Int.natAbs_tdiv a b
  constructor
  · rintro ⟨-, upper⟩ ⟨rfl, rfl⟩
    revert upper
    decide
  · intro other
    by_cases unit : b = -1
    · rw [unit, Int.tdiv_neg, Int.tdiv_one]
      omega
    · by_cases one : b = 1
      · rw [one, Int.tdiv_one]
        exact fits
      · have half : a.natAbs / b.natAbs ≤ a.natAbs / 2 := by
          by_cases zero : b = 0
          · simp [zero]
          · exact Nat.div_le_div_left (by omega) (by decide)
        omega

theorem sign_tmod (a b : Int) : a.tmod b = 0 ∨ (a.tmod b).sign = a.sign := by
  rcases lt_trichotomy a 0 with negative | rfl | positive
  · have low := Int.tmod_nonneg b (show 0 ≤ -a by omega)
    rw [Int.neg_tmod] at low
    by_cases zero : a.tmod b = 0
    · exact .inl zero
    · rw [Int.sign_eq_neg_one_of_neg negative, Int.sign_eq_neg_one_of_neg (by omega)]
      exact .inr rfl
  · exact .inl (Int.zero_tmod b)
  · have high := Int.tmod_nonneg b (show 0 ≤ a by omega)
    by_cases zero : a.tmod b = 0
    · exact .inl zero
    · rw [Int.sign_eq_one_of_pos positive, Int.sign_eq_one_of_pos (by omega)]
      exact .inr rfl

theorem neg_mem_words_iff {a : Int} (fits : a ∈ words) : -a ∈ words ↔ a ≠ -2 ^ 63 := by
  rw [mem_words_iff, fitsWord_iff] at fits ⊢
  have least : (-2 ^ 63 : Int) = -9223372036854775808 := by norm_num
  omega

theorem pow_notMem_words {x : Int} {n : Nat} (large : 2 ≤ x.natAbs) (long : 64 ≤ n) :
    x ^ n ∉ words := by
  rw [mem_words_iff, fitsWord_iff]
  have size : 18446744073709551616 ≤ (x ^ n).natAbs := by
    rw [Int.natAbs_pow]
    calc 18446744073709551616 = 2 ^ 64 := by norm_num
      _ ≤ 2 ^ n := Nat.pow_le_pow_right (by decide) long
      _ ≤ x.natAbs ^ n := Nat.pow_le_pow_left large n
  omega

end Number

namespace Operator

open Number

structure ExactOrOverflow (op : Operator) (exact : Int) (result : Except Cause Value) : Prop where
  within : exact ∈ words → result = .ok (.int exact)
  beyond : exact ∉ words → result = .error (.integerOverflow op)

theorem exactOrOverflow_checked (op : Operator) (n : Int) :
    op.ExactOrOverflow n (Value.checked op n) where
  within fits := if_pos (mem_words_iff.mp fits)
  beyond misses := if_neg fun fits => misses (mem_words_iff.mpr fits)

theorem exactOrOverflow_of_mem {op : Operator} {n : Int} (fits : n ∈ words) :
    op.ExactOrOverflow n (.ok (.int n)) where
  within _ := rfl
  beyond misses := absurd fits misses

/-- The shortcuts for the powers of 0, 1 and -1, for the exponent 0 and for the exponents from 64 on
are exact. -/
theorem exactOrOverflow_raise (x y : Int) :
    power.ExactOrOverflow (x ^ (y % 2 ^ 32).toNat) (raise x y) := by
  have small : ∀ n ∈ [(-1 : Int), 0, 1], n ∈ words := by
    simp [mem_words_iff, fitsWord_iff]
  unfold raise
  rw [show y % Int.pow 2 32 = y % 2 ^ 32 from rfl]
  generalize (y % 2 ^ 32).toNat = exponent
  dsimp only
  split
  next none =>
    rw [beq_iff_eq.mp none, pow_zero]
    exact exactOrOverflow_of_mem (small 1 (by simp))
  next some =>
    have positive : exponent ≠ 0 := by simpa using some
    split
    next fixed =>
      rcases (by simpa using fixed : x = 0 ∨ x = 1) with rfl | rfl
      · rw [zero_pow positive]
        exact exactOrOverflow_of_mem (small 0 (by simp))
      · rw [one_pow]
        exact exactOrOverflow_of_mem (small 1 (by simp))
    next other =>
      split
      next minus =>
        rw [beq_iff_eq.mp minus]
        by_cases odd : exponent % 2 = 1
        · rw [(Nat.odd_iff.mpr odd).neg_one_pow, if_pos (by simpa using odd)]
          exact exactOrOverflow_of_mem (small (-1) (by simp))
        · rw [(Nat.even_iff.mpr (by omega)).neg_one_pow, if_neg (by simpa using odd)]
          exact exactOrOverflow_of_mem (small 1 (by simp))
      next =>
        have large : 2 ≤ x.natAbs := by
          simp only [Bool.or_eq_true, beq_iff_eq] at *
          omega
        split
        next long =>
          exact ⟨fun fits => absurd fits (pow_notMem_words large long), fun _ => rfl⟩
        next => exact exactOrOverflow_checked power _

/-- A power by its base and by the lower half of its exponent as a word. -/
theorem raise_eq_masked (x y : Int) :
    raise x y =
      let exponent := (Int.land (wrapWord y) 0xFFFFFFFF).toNat
      if x = 0 ∨ x = 1 ∨ exponent = 0 then .ok (.int (x ^ exponent))
      else if x = -1 then .ok (.int (if exponent % 2 = 1 then -1 else 1))
      else if 64 ≤ exponent then .error (.integerOverflow power)
      else Value.checked power (x ^ exponent) := by
  rw [land_wrapWord, raise, show y % Int.pow 2 32 = y % 2 ^ 32 from rfl]
  generalize (y % 2 ^ 32).toNat = exponent
  dsimp only
  by_cases none : exponent = 0
  · simp [none]
  · by_cases fixed : x = 0 ∨ x = 1
    · rcases fixed with rfl | rfl <;> simp [none]
    · obtain ⟨zero, one⟩ := not_or.mp fixed
      simp [none, zero, one]

/-- A quotient by the magnitudes of its operands and by whether their signs agree. -/
theorem quotient_eq_magnitudes (op : Operator) (x y : Int) :
    op.quotient x y =
      if y = 0 then .error (.divisionByZero op)
      else .ok (if (x < 0 ↔ y < 0) then |x| / |y| else -(|x| / |y|)) := by
  simp only [quotient, beq_iff_eq, tdiv_eq_magnitudes]

theorem quotient_bind (op : Operator) (a b : Int) (next : Int → Except Cause Value) :
    quotient op a b >>= next =
      if b = 0 then .error (.divisionByZero op) else next (truncated (a / b)) := by
  unfold quotient
  by_cases zero : b = 0
  · simp only [zero, beq_self_eq_true, if_true]
    rfl
  · simp only [zero, beq_iff_eq, if_false, tdiv_eq_truncated]
    rfl

structure Divides (a b : Int) (result : Except Cause Value) : Prop where
  zero : result = .error (.divisionByZero divide) ↔ b = 0
  overflow : result = .error (.integerOverflow divide) ↔ a = -2 ^ 63 ∧ b = -1
  otherwise : b ≠ 0 → ¬ (a = -2 ^ 63 ∧ b = -1) → result = .ok (.int (truncated (a / b)))

theorem divides_apply {a : Int} (fits : a ∈ words) (b : Int) :
    Divides a b (divide.apply (.int a) (.int b)) := by
  have applied : divide.apply (.int a) (.int b) = _ :=
    quotient_bind divide a b (Value.checked divide)
  rw [applied]
  by_cases zero : b = 0
  · rw [if_pos zero]
    constructor
    · simp [zero]
    · simp [zero]
    · intro nonzero
      exact absurd zero nonzero
  · rw [if_neg zero]
    have checked := exactOrOverflow_checked divide (truncated (a / b))
    have within := tdiv_mem_words_iff (b := b) fits
    rw [tdiv_eq_truncated] at within
    by_cases edge : a = -2 ^ 63 ∧ b = -1
    · rw [checked.beyond fun inside => within.mp inside edge]
      constructor
      · simp [zero]
      · simp [edge]
      · intro _ other
        exact absurd edge other
    · rw [checked.within (within.mpr edge)]
      constructor
      · simp [zero]
      · simp only [reduceCtorEq, edge]
      · intro _ _
        rfl

structure LeavesRemainder (a b : Int) (result : Except Cause Value) : Prop where
  zero : result = .error (.divisionByZero modulo) ↔ b = 0
  otherwise : b ≠ 0 → ∃ r ∈ words, result = .ok (.int r) ∧
    a = b * truncated (a / b) + r ∧ |r| < |b| ∧ (r = 0 ∨ r.sign = a.sign)

theorem leavesRemainder_apply {a : Int} (fits : a ∈ words) (b : Int) :
    LeavesRemainder a b (modulo.apply (.int a) (.int b)) := by
  have applied : modulo.apply (.int a) (.int b) = _ :=
    quotient_bind modulo a b fun q => .ok (.int (a - b * q))
  rw [applied]
  by_cases zero : b = 0
  · rw [if_pos zero]
    constructor
    · simp [zero]
    · intro nonzero
      exact absurd zero nonzero
  · rw [if_neg zero, ← tdiv_eq_truncated, ← Int.tmod_def]
    constructor
    · simp [zero]
    · intro _
      have within : a.tmod b ∈ words := by
        rw [mem_words_iff] at fits ⊢
        exact fitsWord_tmod fits b
      have parts : a = b * truncated (a / b) + a.tmod b := by
        rw [← tdiv_eq_truncated, Int.mul_tdiv_add_tmod]
      have small : |a.tmod b| < |b| := by
        rw [Int.abs_eq_natAbs, Int.abs_eq_natAbs, Int.natAbs_tmod]
        exact Int.ofNat_lt.mpr (Nat.mod_lt _ (by omega))
      exact ⟨a.tmod b, within, rfl, parts, small, sign_tmod a b⟩

structure Negates (a : Int) (result : Except Cause Value) : Prop where
  overflow : result = .error (.integerOverflow subtract) ↔ a = -2 ^ 63
  otherwise : a ≠ -2 ^ 63 → result = .ok (.int (-a))

theorem negates_applyUnary {a : Int} (fits : a ∈ words) :
    Negates a (subtract.applyUnary (.int a)) := by
  have checked := exactOrOverflow_checked subtract (-a)
  have within := neg_mem_words_iff fits
  change Negates a (Value.checked subtract (-a))
  by_cases least : a = -2 ^ 63
  · rw [checked.beyond fun inside => within.mp inside least]
    constructor
    · simp [least]
    · intro other
      exact absurd least other
  · rw [checked.within (within.mpr least)]
    constructor
    · simp only [reduceCtorEq, least]
    · intro _
      rfl

/-- Integer arithmetic on words is exact, or it fails. The right operand may be any integer. -/
theorem apply_exact_or_fails {a : Int} (fits : a ∈ words) (b : Int) :
    add.ExactOrOverflow (a + b) (add.apply (.int a) (.int b)) ∧
    subtract.ExactOrOverflow (a - b) (subtract.apply (.int a) (.int b)) ∧
    multiply.ExactOrOverflow (a * b) (multiply.apply (.int a) (.int b)) ∧
    Divides a b (divide.apply (.int a) (.int b)) ∧
    LeavesRemainder a b (modulo.apply (.int a) (.int b)) ∧
    power.ExactOrOverflow (a ^ (b % 2 ^ 32).toNat) (power.apply (.int a) (.int b)) ∧
    Negates a (subtract.applyUnary (.int a)) := by
  refine ⟨?_, ?_, ?_, ?_, ?_, ?_, ?_⟩
  · exact exactOrOverflow_checked add (a + b)
  · exact exactOrOverflow_checked subtract (a - b)
  · exact exactOrOverflow_checked multiply (a * b)
  · exact divides_apply fits b
  · exact leavesRemainder_apply fits b
  · exact exactOrOverflow_raise a b
  · exact negates_applyUnary fits

/-- The quotient of the least word and -1 is the one that no word holds; its remainder is 0. -/
theorem apply_least_exact_or_fails :
    (-2 ^ 63 : Int) ∈ words ∧
    divide.apply (.int (-2 ^ 63)) (.int (-1)) = .error (.integerOverflow divide) ∧
    modulo.apply (.int (-2 ^ 63)) (.int (-1)) = .ok (.int 0) := by
  have fits : (-2 ^ 63 : Int) ∈ words := by
    rw [mem_words_iff]
    decide
  obtain ⟨-, -, -, division, remainder, -⟩ := apply_exact_or_fails fits (-1)
  refine ⟨fits, division.overflow.mpr ⟨rfl, rfl⟩, ?_⟩
  obtain ⟨r, -, applied, -, small, -⟩ := remainder.otherwise (by decide)
  have zero : r = 0 := by
    rwa [abs_neg, abs_one, Int.abs_lt_one_iff] at small
  rw [applied, zero]

end Operator

end Scriptlet
