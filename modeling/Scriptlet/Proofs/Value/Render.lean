import Scriptlet.Intrinsic

/-!
Rendering within more levels. The levels decide only whether a value nests too deep; where it does
not, its text is the same within more of them, and so is what stops it from having one.
-/

namespace Scriptlet

namespace Value

mutual

theorem render_of_more {levels more : Nat} (enough : levels ≤ more) (value : Value) :
    value.render levels = .error .tooDeep ∨ value.render more = value.render levels := by
  match value with
  | array elements =>
      cases levels with
      | zero => exact .inl rfl
      | succ levels =>
          obtain ⟨further, rfl⟩ : ∃ further, more = further + 1 := ⟨more - 1, by omega⟩
          rcases renderAll_of_more (Nat.le_of_succ_le_succ enough) elements with deep | same
          · exact .inl (by rw [render, deep])
          · exact .inr (by rw [render, render, same])
  | nil | invalid | bool _ | int _ | float _ | string _ => exact .inr rfl

theorem renderAll_of_more {levels more : Nat} (enough : levels ≤ more) (elements : List Value) :
    renderAll levels elements = .error .tooDeep ∨
      renderAll more elements = renderAll levels elements := by
  match elements with
  | [] => exact .inr rfl
  | value :: rest =>
      rw [renderAll, renderAll]
      rcases render_of_more enough value with deep | same
      · exact .inl (by rw [deep])
      · rw [same]
        cases value.render levels with
        | error obstacle => exact .inr rfl
        | ok first =>
            rcases renderAll_of_more enough rest with deep | same
            · exact .inl (by rw [deep])
            · exact .inr (by rw [same])

end

end Value

theorem Intrinsic.output_of_more {levels more : Nat} (enough : levels ≤ more)
    (intrinsic : Intrinsic) (values : List Value) :
    intrinsic.output levels values = .error .tooDeep ∨
      intrinsic.output more values = intrinsic.output levels values := by
  cases intrinsic with
  | println =>
      match values with
      | [value] =>
          rcases value.render_of_more enough with deep | same
          · exact .inl (by rw [output, deep])
          · exact .inr (by rw [output, output, same])
      | [] | _ :: _ :: _ => exact .inr rfl

end Scriptlet
