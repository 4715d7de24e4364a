import Scriptlet.Proofs.Value.Leaves
import Scriptlet.Value.Render

/-!
Which values have a text. Rendering stops for one of two reasons: `invalid` occurs in the value, at
whatever depth of arrays, or the arrays nest deeper than there are levels. A value with neither is
rendered, and within enough levels only the first reason is left.
-/

namespace Scriptlet.Value

def isInvalid : Value → Bool
  | invalid => true
  | _ => false

def InvalidFree (value : Value) : Prop :=
  ∀ leaf ∈ value.leaves, leaf.isInvalid = false

instance : DecidablePred InvalidFree :=
  fun value => inferInstanceAs (Decidable (∀ leaf ∈ value.leaves, leaf.isInvalid = false))

mutual

def nesting : Value → Nat
  | array elements => nestingAll elements + 1
  | _ => 0

def nestingAll : List Value → Nat
  | [] => 0
  | value :: rest => max (nesting value) (nestingAll rest)

end

def Tells (free : Prop) (levels nesting : Nat) : Except Obstacle String → Prop
  | .ok _ => free ∧ nesting ≤ levels
  | .error .invalid => ¬ free
  | .error .tooDeep => levels < nesting

theorem invalidFree_of_leaf {value : Value} (leaf : value.leaves = [value])
    (valid : value.isInvalid = false) : value.InvalidFree := by
  intro part member
  rw [leaf] at member
  rw [List.mem_singleton.mp member]
  exact valid

theorem not_invalidFree_invalid : ¬ InvalidFree invalid := by
  intro free
  cases free invalid List.mem_cons_self

mutual

theorem render_tells (levels : Nat) (value : Value) :
    Tells value.InvalidFree levels value.nesting (value.render levels) := by
  match value with
  | array elements =>
      have free : (array elements).InvalidFree ↔ ∀ element ∈ elements, element.InvalidFree :=
        forall_leaves_array
      rw [free, nesting]
      cases levels with
      | zero => exact Nat.succ_pos _
      | succ levels =>
          rw [render]
          have tells := renderAll_tells levels elements
          rcases rendered : renderAll levels elements with obstacle | text
          · rw [rendered] at tells
            cases obstacle with
            | invalid => exact tells
            | tooDeep => exact Nat.succ_lt_succ tells
          · rw [rendered] at tells
            exact ⟨tells.1, Nat.succ_le_succ tells.2⟩
  | invalid => exact not_invalidFree_invalid
  | nil | bool _ | int _ | float _ | string _ => exact ⟨invalidFree_of_leaf rfl rfl, Nat.zero_le _⟩

theorem renderAll_tells (levels : Nat) (elements : List Value) :
    Tells (∀ element ∈ elements, element.InvalidFree) levels (nestingAll elements)
      (renderAll levels elements) := by
  match elements with
  | [] => exact ⟨fun _ member => absurd member List.not_mem_nil, Nat.zero_le _⟩
  | value :: rest =>
      have first := render_tells levels value
      have others := renderAll_tells levels rest
      rw [renderAll, nestingAll, List.forall_mem_cons]
      rcases rendered : value.render levels with obstacle | text
      · rw [rendered] at first
        cases obstacle with
        | invalid => exact fun free => first free.1
        | tooDeep => exact Nat.lt_of_lt_of_le first (Nat.le_max_left _ _)
      · rw [rendered] at first
        rcases renderedAll : renderAll levels rest with obstacle | text
        · rw [renderedAll] at others
          cases obstacle with
          | invalid => exact fun free => others free.2
          | tooDeep => exact Nat.lt_of_lt_of_le others (Nat.le_max_right _ _)
        · rw [renderedAll] at others
          exact ⟨⟨first.1, others.1⟩, Nat.max_le.mpr ⟨first.2, others.2⟩⟩

end

variable {levels : Nat} {value : Value}

theorem invalidFree_of_render {text : String} (rendered : value.render levels = .ok text) :
    value.InvalidFree := by
  have tells := render_tells levels value
  rw [rendered] at tells
  exact tells.1

theorem not_invalidFree_of_render (refused : value.render levels = .error .invalid) :
    ¬ value.InvalidFree := by
  have tells := render_tells levels value
  rw [refused] at tells
  exact tells

/-- Within enough levels, rendering finds `invalid` exactly where it occurs. -/
theorem render_eq_invalid_iff (within : value.nesting ≤ levels) :
    value.render levels = .error .invalid ↔ ¬ value.InvalidFree := by
  refine ⟨not_invalidFree_of_render, fun occurs => ?_⟩
  have tells := render_tells levels value
  rcases rendered : value.render levels with obstacle | text
  · rw [rendered] at tells
    cases obstacle with
    | invalid => rfl
    | tooDeep => exact absurd tells (Nat.not_lt.mpr within)
  · rw [rendered] at tells
    exact absurd tells.1 occurs

end Scriptlet.Value
