import Scriptlet.Value

/-! What a value consists of, at any depth of arrays. -/

namespace Scriptlet.Value

mutual

def leaves : Value → List Value
  | array elements => leavesAll elements
  | value => [value]

def leavesAll : List Value → List Value
  | [] => []
  | value :: rest => leaves value ++ leavesAll rest

end

theorem mem_leavesAll {leaf : Value} {elements : List Value} :
    leaf ∈ leavesAll elements ↔ ∃ element ∈ elements, leaf ∈ element.leaves := by
  induction elements with
  | nil => simp [leavesAll]
  | cons element rest ih => simp [leavesAll, ih]

theorem forall_leaves_array {good : Value → Prop} {elements : List Value} :
    (∀ leaf ∈ (array elements).leaves, good leaf) ↔
      ∀ element ∈ elements, ∀ leaf ∈ element.leaves, good leaf := by
  rw [leaves]
  constructor
  · intro all element member leaf inside
    exact all leaf (mem_leavesAll.mpr ⟨element, member, inside⟩)
  · intro all leaf inside
    obtain ⟨element, member, inside⟩ := mem_leavesAll.mp inside
    exact all element member leaf inside

end Scriptlet.Value
