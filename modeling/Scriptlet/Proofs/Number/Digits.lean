import Scriptlet.Number.Numeral

/-! The decimal digits that a natural number is printed in are read as that number. -/

namespace Scriptlet.Number.Numeral

theorem exists_digitChar {c : Char} (digit : c.isDigit = true) : ∃ d < 10, Nat.digitChar d = c := by
  have bounds : 48 ≤ c.toNat ∧ c.toNat ≤ 57 := by
    simpa [Char.isDigit, UInt32.le_iff_toNat_le] using digit
  refine ⟨c.toNat - 48, by omega, Char.toNat_inj.mp ?_⟩
  rw [Nat.toNat_digitChar_of_lt_ten (by omega)]
  omega

theorem groupedDigits_of_digits {text : List Char} (nonempty : text ≠ [])
    (digits : ∀ c ∈ text, c.isDigit = true) :
    groupedDigits? text = some (text.map fun c => c.toNat - 48) := by
  induction text with
  | nil => exact absurd rfl nonempty
  | cons c rest ih =>
      have first : Text.digitValue? c = some (c.toNat - 48) := if_pos (digits c (by simp))
      cases rest with
      | nil => simp [groupedDigits?, first]
      | cons next more =>
          have ungrouped : next ≠ '_' := by
            rintro rfl
            exact absurd (digits '_' (by simp)) (by decide)
          have others := ih (List.cons_ne_nil _ _) fun c member => digits c (by simp [member])
          simp [groupedDigits?, first, others]

theorem not_blank_of_digit {c : Char} (digit : c.isDigit = true) :
    Text.isNumeralBlank c = false := by
  have all : ∀ d < 10, Text.isNumeralBlank (Nat.digitChar d) = false := by
    decide +kernel
  obtain ⟨d, small, rfl⟩ := exists_digitChar digit
  exact all d small

theorem trim_of_digits {text : List Char} (digits : ∀ c ∈ text, c.isDigit = true) :
    trim text = text := by
  have unchanged (chars : List Char) (digits : ∀ c ∈ chars, c.isDigit = true) :
      chars.dropWhile Text.isNumeralBlank = chars := by
    cases chars with
    | nil => rfl
    | cons c rest => simp [not_blank_of_digit (digits c (by simp))]
  unfold trim
  dsimp only
  rw [unchanged text digits, unchanged _ fun c member => digits c (List.mem_reverse.mp member),
    List.reverse_reverse]

theorem value_digits (text : List Char) :
    value (text.map fun c => c.toNat - 48) = Nat.ofDigitChars 10 text 0 := by
  rw [value, List.foldl_map, Nat.ofDigitChars_eq_foldl]
  rfl

theorem integer_toDigits {n : Nat} (small : n < Nat.pow 10 20) :
    integer? (Nat.toDigits 10 n) = some (n : Int) := by
  have digits : ∀ c ∈ Nat.toDigits 10 n, c.isDigit = true := fun c member =>
    Nat.isDigit_of_mem_toDigits (by decide) (by decide) member
  have short : (Nat.toDigits 10 n).length ≤ digitLimit :=
    Nat.le_trans ((Nat.length_toDigits_le_iff (by decide) (by decide)).mpr small) (by decide)
  have natural : natural? (Nat.toDigits 10 n) = some n := by
    unfold natural?
    rw [groupedDigits_of_digits Nat.toDigits_ne_nil digits]
    dsimp only
    rw [List.length_map, if_pos short, value_digits, Nat.ofDigitChars_ten_toDigits]
  unfold integer?
  rw [trim_of_digits digits]
  split
  next first =>
    exact absurd (digits '-' (by rw [first]; simp)) (by decide)
  next first =>
    exact absurd (digits '+' (by rw [first]; simp)) (by decide)
  next =>
    rw [natural]
    rfl

end Scriptlet.Number.Numeral
