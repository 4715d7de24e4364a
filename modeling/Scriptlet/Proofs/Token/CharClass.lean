import Scriptlet.Token.CharClass

/-!
The classes of white space and of symbols. A character has the first class that fits, so white
space is blank because none of it is a letter, a numeral, a quote or a bracket.
-/

namespace Scriptlet

namespace Text

def Ranges.apart (ranges others : Ranges) : Bool :=
  ranges.toList.all fun range => others.toList.all fun other =>
    decide (range.2 < other.1) || decide (other.2 < range.1)

theorem Ranges.not_contains_of_apart {ranges others : Ranges} {c : Char}
    (apart : ranges.apart others = true) (contained : ranges.contains c = true) :
    others.contains c = false := by
  unfold contains at contained ⊢
  rw [← Array.any_toList] at contained ⊢
  obtain ⟨range, listed, within⟩ := List.any_eq_true.mp contained
  rw [List.any_eq_false]
  intro other member
  have disjoint := List.all_eq_true.mp (List.all_eq_true.mp apart range listed) other member
  simp only [Bool.or_eq_true, Bool.and_eq_true, decide_eq_true_eq] at disjoint within ⊢
  omega

theorem bounds_of_isBlank {c : Char} (blank : isBlank c = true) :
    c.toNat ≤ 0x20 ∨ 0x80 ≤ c.toNat := by
  simp only [isBlank, Ranges.contains, blankRanges, List.any_toArray, List.any_cons, List.any_nil,
    Bool.or_eq_true, Bool.and_eq_true, decide_eq_true_eq, Bool.or_false] at blank
  omega

theorem isLetter_of_isBlank {c : Char} (blank : isBlank c = true) : isLetter c = false := by
  have apart : blankRanges.apart letterRanges = true := by decide +kernel
  unfold isLetter
  split
  · have bounds := bounds_of_isBlank blank
    have ascii : c.isAlpha = (decide (65 ≤ c.toNat ∧ c.toNat ≤ 90) ||
        (decide (97 ≤ c.toNat) && decide (c.toNat ≤ 122))) := rfl
    simp only [ascii, Bool.or_eq_false_iff, Bool.and_eq_false_iff, decide_eq_false_iff_not]
    omega
  · exact Ranges.not_contains_of_apart apart blank

theorem isNumeric_of_isBlank {c : Char} (blank : isBlank c = true) : isNumeric c = false := by
  have apart : blankRanges.apart numericRanges = true := by decide +kernel
  unfold isNumeric
  split
  · have bounds := bounds_of_isBlank blank
    have ascii : c.isDigit = (decide (48 ≤ c.toNat) && decide (c.toNat ≤ 57)) := rfl
    simp only [ascii, Bool.and_eq_false_iff, decide_eq_false_iff_not]
    omega
  · exact Ranges.not_contains_of_apart apart blank

end Text

namespace Token.CharClass

theorem ofChar_of_isBlank {c : Char} (blank : Text.isBlank c = true) : ofChar c = .blank := by
  have bounds := Text.bounds_of_isBlank blank
  have other (d : Char) (between : ¬ (d.toNat ≤ 0x20 ∨ 0x80 ≤ d.toNat)) : c ≠ d := by
    rintro rfl
    exact between bounds
  have noBracket : bracket? c = none := by
    unfold bracket?
    split
    all_goals first
      | rfl
      | exact absurd bounds (by decide)
  simp [ofChar, Text.isLetter_of_isBlank blank, Text.isNumeric_of_isBlank blank, noBracket, blank,
    other '_' (by decide), other '.' (by decide), other '\"' (by decide)]

theorem ofChar_of_isLetter {c : Char} (letter : Text.isLetter c = true ∨ c = '_') :
    ofChar c = .letter := by
  simp [ofChar, letter]

def symbols : List Char :=
  ['+', '-', '*', '/', '%', '^', '!', '>', '<', '=', '&', '|', ',', ';', ':']

theorem ofChar_of_mem_symbols : ∀ c ∈ symbols, ofChar c = .symbol := by
  simp only [symbols, List.forall_mem_cons]
  refine ⟨?_, ?_, ?_, ?_, ?_, ?_, ?_, ?_, ?_, ?_, ?_, ?_, ?_, ?_, ?_, nofun⟩
  all_goals decide +kernel

end Token.CharClass

end Scriptlet
