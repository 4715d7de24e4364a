import Scriptlet.Scope

/-! Bindings as maps from names to values, and what binding variables leaves alone. -/

namespace Scriptlet.Bindings

variable {α β γ : Type}

theorem find_put (name key : String) (value : α) (entries : List (String × α)) :
    find? name (put key value entries) = if key = name then some value else find? name entries := by
  induction entries with
  | nil => simp [put, find?]
  | cons entry rest ih =>
      obtain ⟨other, old⟩ := entry
      by_cases here : other = key
      · subst here
        by_cases same : other = name <;> simp [put, find?, same]
      · by_cases same : other = name
        · subst same
          have apart : key ≠ other := fun equal => here equal.symm
          simp [put, find?, here, apart]
        · simp [put, find?, here, same, ih]

@[simp] theorem get_insert (bindings : Bindings α) (name key : String) (value : α) :
    (bindings.insert key value).get? name =
      if key = name then some value else bindings.get? name :=
  find_put name key value bindings.entries

theorem contains_insert_of_contains {bindings : Bindings α} {name key : String} {value : α}
    (bound : bindings.contains name = true) :
    (bindings.insert key value).contains name = true := by
  unfold contains at bound ⊢
  rw [get_insert]
  split
  · rfl
  · exact bound

theorem mem_of_find {name : String} {value : α} {entries : List (String × α)}
    (found : find? name entries = some value) : (name, value) ∈ entries := by
  induction entries with
  | nil => cases found
  | cons entry rest ih =>
      obtain ⟨key, first⟩ := entry
      by_cases same : key = name
      · subst same
        simp only [find?, BEq.rfl, if_true, Option.some.injEq] at found
        simp [found]
      · simp only [find?, same, beq_iff_eq, if_false] at found
        exact List.mem_cons_of_mem _ (ih found)

theorem forall_mem_put {good : α → Prop} {key : String} {value : α} {entries : List (String × α)}
    (held : ∀ entry ∈ entries, good entry.2) (new : good value) :
    ∀ entry ∈ put key value entries, good entry.2 := by
  induction entries with
  | nil =>
      intro entry member
      rw [List.mem_singleton.mp member]
      exact new
  | cons first rest ih =>
      obtain ⟨other, old⟩ := first
      obtain ⟨head, tail⟩ := List.forall_mem_cons.mp held
      by_cases here : other = key
      · simp only [put, here, BEq.rfl, if_true]
        exact List.forall_mem_cons.mpr ⟨new, tail⟩
      · simp only [put, here, beq_iff_eq, if_false]
        exact List.forall_mem_cons.mpr ⟨head, ih tail⟩

theorem find_filter {shown : String → Bool} {name : String} (visible : shown name = true)
    (entries : List (String × α)) :
    find? name (entries.filter fun entry => shown entry.1) = find? name entries := by
  induction entries with
  | nil => rfl
  | cons entry rest ih =>
      obtain ⟨key, value⟩ := entry
      by_cases kept : shown key = true
      · simp [kept, find?, ih]
      · have apart : key ≠ name := by
          rintro rfl
          exact kept visible
        simp [kept, find?, apart, ih]

theorem put_filter {shown : String → Bool} {name : String} (visible : shown name = true)
    (value : α) (entries : List (String × α)) :
    (put name value entries).filter (fun entry => shown entry.1) =
      put name value (entries.filter fun entry => shown entry.1) := by
  induction entries with
  | nil => simp [put, visible]
  | cons entry rest ih =>
      obtain ⟨key, old⟩ := entry
      by_cases same : key = name
      · simp [put, same, visible]
      · by_cases kept : shown key = true
        · simp [put, same, kept, ih]
        · simp [put, same, kept, ih]

theorem filter_put_of_hidden {shown : String → Bool} {name : String} (hidden : shown name = false)
    (value : α) (entries : List (String × α)) :
    (put name value entries).filter (fun entry => shown entry.1) =
      entries.filter fun entry => shown entry.1 := by
  induction entries with
  | nil => simp [put, hidden]
  | cons entry rest ih =>
      obtain ⟨key, old⟩ := entry
      by_cases same : key = name
      · simp [put, same, hidden]
      · by_cases kept : shown key = true
        · simp [put, same, kept, ih]
        · simp [put, same, kept, ih]

def map (change : α → β) (bindings : Bindings α) : Bindings β :=
  ⟨bindings.entries.map fun entry => (entry.1, change entry.2)⟩

@[simp] theorem map_id (bindings : Bindings α) : bindings.map id = bindings := by
  simp [map]

@[simp] theorem map_map (first : α → β) (second : β → γ) (bindings : Bindings α) :
    (bindings.map first).map second = bindings.map (second ∘ first) := by
  simp [map]

@[simp] theorem get_map (change : α → β) (bindings : Bindings α) (name : String) :
    (bindings.map change).get? name = (bindings.get? name).map change := by
  obtain ⟨entries⟩ := bindings
  unfold map get?
  induction entries with
  | nil => rfl
  | cons entry rest ih =>
      by_cases same : entry.1 = name
      · simp [find?, same]
      · simpa [find?, same] using ih

@[simp] theorem map_insert (change : α → β) (bindings : Bindings α) (name : String) (value : α) :
    (bindings.insert name value).map change = (bindings.map change).insert name (change value) := by
  obtain ⟨entries⟩ := bindings
  unfold insert map
  congr 1
  induction entries with
  | nil => rfl
  | cons entry rest ih =>
      by_cases same : entry.1 = name
      · simp [put, same]
      · simpa [put, same] using ih

end Scriptlet.Bindings

namespace Scriptlet.Scope

theorem functions_setVariables (scope : Scope) (names : List String) (values : List Value) :
    (scope.setVariables names values).functions = scope.functions := by
  unfold setVariables
  induction names.zip values generalizing scope with
  | nil => rfl
  | cons binding rest ih => exact ih (scope.setVariable binding.1 binding.2)

theorem returned_setVariables (scope : Scope) (names : List String) (values : List Value) :
    (scope.setVariables names values).returned = scope.returned := by
  unfold setVariables
  induction names.zip values generalizing scope with
  | nil => rfl
  | cons binding rest ih => exact ih (scope.setVariable binding.1 binding.2)

theorem returnValue_setVariables (scope : Scope) (names : List String) (values : List Value) :
    (scope.setVariables names values).returnValue = scope.returnValue := by
  unfold setVariables
  induction names.zip values generalizing scope with
  | nil => rfl
  | cons binding rest ih => exact ih (scope.setVariable binding.1 binding.2)

end Scriptlet.Scope
