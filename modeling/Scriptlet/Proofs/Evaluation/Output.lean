import Scriptlet.Proofs.Evaluation.Visit

/-!
What an evaluation may print. Only a call of a module's member adds to the output, one line at a
time. So if all such lines are of a kind, an evaluation adds nothing but lines of that kind,
however it ends and whatever functions it calls on the way.
-/

namespace Scriptlet

def Machine.Extends (kind : String → Prop) (machine after : Machine) : Prop :=
  ∃ lines, (∀ line ∈ lines, kind line) ∧ after.output.toList = machine.output.toList ++ lines

def Eval.Adds {α : Type} (kind : String → Prop) (action : Eval α) : Prop :=
  ∀ machine, ∃ lines, (∀ line ∈ lines, kind line) ∧
    (action.outcome machine).2.output.toList = machine.output.toList ++ lines

variable {kind : String → Prop}

theorem Machine.extends_of_same {machine after : Machine} (same : after.output = machine.output) :
    machine.Extends kind after := by
  refine ⟨[], fun _ member => absurd member List.not_mem_nil, ?_⟩
  rw [same, List.append_nil]

theorem Machine.Extends.trans {machine middle last : Machine}
    (head : machine.Extends kind middle) (tail : middle.Extends kind last) :
    machine.Extends kind last := by
  obtain ⟨first, firstKind, firstOutput⟩ := head
  obtain ⟨second, secondKind, secondOutput⟩ := tail
  refine ⟨first ++ second, List.forall_mem_append.mpr ⟨firstKind, secondKind⟩, ?_⟩
  rw [secondOutput, firstOutput, List.append_assoc]

variable (prints : ∀ (intrinsic : Intrinsic) (levels : Nat) (values : List Value) (line : String),
  intrinsic.output levels values = .ok line → kind line)

include prints

theorem progression_extends : Progression (Machine.Extends kind) (Machine.Extends kind) where
  refl _ := Machine.extends_of_same rfl
  trans _ _ _ head tail := head.trans tail
  note _ _ := Machine.extends_of_same rfl
  print machine intrinsic levels values line printed := by
    refine ⟨[line], List.forall_mem_singleton.mpr (prints _ _ _ _ printed), ?_⟩
    rw [Array.toList_push]
  frame _ _ _ added := added

theorem Node.evaluate_adds (setting : Setting) (depth : Nat) (node : Node) :
    (node.evaluate setting depth).Adds kind := by
  have progression := progression_extends prints
  induction depth generalizing node with
  | zero => exact fun machine => progression.refl machine
  | succ depth ih =>
      intro machine
      have visits (part : Node) (entered : Machine) :
          (part.evaluate setting depth).Meets (Machine.Extends kind) (fun _ => True) entered :=
        ⟨ih part entered, fun _ _ => trivial⟩
      have meets := @evaluateLevel_meets _ _ _ progression setting _ machine (fun _ => trivial)
        depth node trivial (fun _ => trivial) (fun part entered _ => visits part entered)
        (fun body entered _ => visits body entered) fun _ _ _ => Machine.extends_of_same rfl
      exact meets.reaches

end Scriptlet
