import Scriptlet.Value.Arithmetic

/-!
What operators can give. Between two operands all operators but the negation and the unknown ones
have rules. They never make the invalid value, and where no rule applies they have words for what
they failed to do.
-/

namespace Scriptlet.Operator

/-- Whether an operator has no rules for two operands. It makes the invalid value of them. -/
def fallsBack : Operator → Bool
  | not | unknown _ => true
  | _ => false

theorem undertaking_ne_empty {op : Operator} (ruled : op.fallsBack = false) :
    op.undertaking ≠ "" := by
  cases op with
  | not | unknown => cases ruled
  | _ => decide

inductive Gives (op : Operator) : Except Cause Value → Prop
  | value {value : Value} : value ≠ .invalid → Gives op (.ok value)
  | overflow : Gives op (.error (.integerOverflow op))
  | zero : Gives op (.error (.divisionByZero op))
  | unsupported :
      op.undertaking ≠ "" → Gives op (.error (.unsupportedOperands op.text op.undertaking))

variable {op : Operator}

theorem gives_checked (op : Operator) (n : Int) : op.Gives (Value.checked op n) := by
  unfold Value.checked
  split
  · exact .value (by simp)
  · exact .overflow

theorem gives_raise (x y : Int) : power.Gives (raise x y) := by
  unfold raise
  dsimp only
  split
  · exact .value (by simp)
  · split
    · exact .value (by simp)
    · split
      · exact .value (by simp)
      · split
        · exact .overflow
        · exact gives_checked power _

theorem gives_quotient {result : Int → Except Cause Value} (x y : Int)
    (given : ∀ n, op.Gives (result n)) : op.Gives (quotient op x y >>= result) := by
  unfold quotient
  split
  · exact .zero
  · exact given _

theorem gives_unsupported (ruled : op.fallsBack = false) : op.Gives op.unsupported :=
  .unsupported (undertaking_ne_empty ruled)

theorem gives_applyInts (ruled : op.fallsBack = false) (x y : Int) :
    op.Gives (op.applyInts x y) := by
  cases op with
  | add | subtract | multiply => exact gives_checked _ _
  | divide => exact gives_quotient x y fun n => gives_checked _ n
  | modulo => exact gives_quotient x y fun n => .value (by simp)
  | power => exact gives_raise x y
  | equal | notEqual | greater | less | greaterEqual | lessEqual => exact .value (by simp)
  | and | or => exact gives_unsupported ruled
  | not | unknown => cases ruled

theorem gives_applyFloats (ruled : op.fallsBack = false) (x y : Float) :
    op.Gives (op.applyFloats x y) := by
  cases op with
  | and | or => exact gives_unsupported ruled
  | not | unknown => cases ruled
  | _ => exact .value (by simp)

theorem gives_apply (ruled : op.fallsBack = false) (left right : Value) :
    op.Gives (op.apply left right) := by
  unfold apply
  split
  · exact .value (by simp)
  · exact .value (by simp)
  · unfold applyPresent
    split
    · cases ruled
    · cases ruled
    · exact gives_applyInts ruled _ _
    · exact gives_applyFloats ruled _ _
    · exact .value (by simp)
    · exact .value (by simp)
    · exact .value (by simp)
    · exact gives_unsupported ruled

theorem apply_of_fallsBack (fallsBack : op.fallsBack = true) (left right : Value) :
    op.apply left right = .ok .nil ∨ op.apply left right = .ok .invalid := by
  unfold apply
  split
  · exact .inl rfl
  · exact .inl rfl
  · cases op with
    | not | unknown => exact .inr rfl
    | _ => cases fallsBack

theorem ruled_of_apply_error {left right : Value} {cause : Cause}
    (failed : op.apply left right = .error cause) : op.fallsBack = false := by
  cases unruled : op.fallsBack with
  | false => rfl
  | true =>
      rcases apply_of_fallsBack unruled left right with given | given
      · cases given.symm.trans failed
      · cases given.symm.trans failed

theorem applyUnary_error {operand : Value} {cause : Cause}
    (failed : op.applyUnary operand = .error cause) :
    cause = .integerOverflow op ∨ ∃ detail ≠ "", cause = .unsupportedOperands op.text detail := by
  unfold applyUnary at failed
  split at failed
  · cases failed
  · unfold Value.checked at failed
    split at failed
    · cases failed
    · cases failed
      exact .inl rfl
  · cases failed
  · cases failed
    exact .inr ⟨_, by simp, rfl⟩

end Scriptlet.Operator
