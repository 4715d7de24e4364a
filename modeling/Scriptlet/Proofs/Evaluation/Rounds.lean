import Scriptlet.Proofs.Evaluation.Depth

/-!
The same evaluation within other bounds. What was printed before and the journal have no influence
on it, and the bounds decide only whether it is cut off: if it comes to its own end within some
levels and rounds, it comes to the same end within more.
-/

namespace Scriptlet

def Stop.isCut : Stop → Bool
  | overflow | unfinished => true
  | fault _ => false

namespace Eval

def Uncut {α : Type} (ended : Except Stop α × Machine) : Prop :=
  ∀ stop, ended.1 = .error stop → stop.isCut = false

/-- Whether two outcomes have the same result, scope and output. Their journals may differ. -/
structure SameEnd {α : Type} (left right : Except Stop α × Machine) : Prop where
  result : right.1 = left.1
  scope : right.2.scope = left.2.scope
  output : right.2.output = left.2.output

variable {α : Type} {left middle right : Except Stop α × Machine}

theorem sameEnd_rfl : SameEnd left left :=
  ⟨rfl, rfl, rfl⟩

theorem SameEnd.symm (same : SameEnd left right) : SameEnd right left :=
  ⟨same.result.symm, same.scope.symm, same.output.symm⟩

theorem SameEnd.trans (head : SameEnd left middle) (tail : SameEnd middle right) :
    SameEnd left right :=
  ⟨tail.result.trans head.result, tail.scope.trans head.scope, tail.output.trans head.output⟩

theorem SameEnd.uncut (same : SameEnd left right) (uncut : Uncut left) : Uncut right := by
  intro stop stopped
  rw [same.result] at stopped
  exact uncut stop stopped

end Eval

namespace Simulation

def beside (printed : Array String) (excused : Stop → Prop) : Simulation where
  change := id
  printed := printed
  excused := excused

variable {printed : Array String} {excused : Stop → Prop}

theorem beside_lawful (setting : Setting) : (beside printed excused).Lawful setting setting where
  stable := Value.stable_true
  rounds := rfl
  overflow := rfl
  unfinished := rfl
  below _ _ _ _ := trivial
  names _ _ _ _ := rfl
  faults node cause _ _ := by
    have same : (beside printed excused).rebuilt node = node := node.rebuilt_id
    rw [same]
    rfl

theorem beside_machines {machine other : Machine} :
    (beside printed excused).Machines machine other ↔
      other.scope = machine.scope ∧ machine.output = printed ++ other.output := by
  have scopes : (beside printed excused).Scopes machine.scope other.scope ↔ _ :=
    scopes_iff_of_unchanged (fun _ => rfl) rfl
  constructor
  · rintro ⟨related, output⟩
    exact ⟨(scopes.mp related).1, output⟩
  · rintro ⟨same, output⟩
    exact ⟨scopes.mpr ⟨same, fun _ _ => trivial, machine.scope.every_true⟩, output⟩

theorem beside_rfl (machine : Machine) : (beside #[] excused).Machines machine machine :=
  beside_machines.mpr ⟨rfl, Array.empty_append.symm⟩

theorem Ended.sameEnd_beside {left right : Except Stop Value × Machine}
    (ended : (beside #[] excused).Ended (beside #[] excused).Values left right)
    (inexcusable : ∀ stop, left.1 = .error stop → ¬ excused stop) : Eval.SameEnd left right := by
  cases ended with
  | finished same reached =>
      obtain ⟨scope, output⟩ := beside_machines.mp reached
      exact ⟨congrArg Except.ok same.1.symm, scope, (output.trans Array.empty_append).symm⟩
  | stopped same reached =>
      obtain ⟨scope, output⟩ := beside_machines.mp reached
      exact ⟨congrArg Except.error same.symm, scope, (output.trans Array.empty_append).symm⟩
  | excused cut => exact absurd cut (inexcusable _ rfl)

def upToCut : Simulation :=
  beside #[] (·.isCut = true)

theorem Ended.sameEnd_of_uncut {left right : Except Stop Value × Machine}
    (ended : upToCut.Ended upToCut.Values left right) (uncut : Eval.Uncut left) :
    Eval.SameEnd left right := by
  refine ended.sameEnd_beside fun stop stopped cut => ?_
  rw [uncut stop stopped] at cut
  cases cut

end Simulation

namespace Node

open Eval Simulation

variable {printed : Array String} {excused : Stop → Prop} (unfinished : excused .unfinished)

include unfinished

theorem evaluateWhile_of_more {condition body other second : Eval Value}
    (conditions : (beside printed excused).Agree (beside printed excused).Values condition other)
    (bodies : (beside printed excused).Agree (beside printed excused).Values body second)
    {rounds more : Nat} (enough : rounds ≤ more) (count start : Nat) :
    (beside printed excused).Agree (fun _ _ => True) (evaluateWhile condition body rounds count)
      (evaluateWhile other second more start) := by
  induction rounds generalizing more count start with
  | zero => exact fun _ _ _ => .excused unfinished
  | succ rounds ih =>
      -- The counts may differ from the start, so nothing is said of the results.
      obtain ⟨further, rfl⟩ : ∃ further, more = further + 1 := ⟨more - 1, by omega⟩
      refine agree_scope.bind fun scope twin scopes => ?_
      rw [scopes.returned]
      by_cases returned : scope.returned = true
      · rw [if_pos returned, if_pos returned]
        exact agree_pure trivial
      · rw [if_neg returned, if_neg returned]
        refine conditions.bind fun value _ same => ?_
        obtain ⟨rfl, _⟩ := same
        by_cases holds : value.truthy = true
        · rw [if_pos holds, if_pos holds]
          exact bodies.bind fun _ _ _ => ih (Nat.le_of_succ_le_succ enough) _ _
        · rw [if_neg holds, if_neg holds]
          exact agree_pure trivial

theorem evaluate_of_more_rounds (file : String) {rounds more : Nat} (enough : rounds ≤ more)
    (depth : Nat) (node : Node) :
    (beside printed excused).Agree (beside printed excused).Values
      (node.evaluate ⟨file, rounds⟩ depth) (node.evaluate ⟨file, more⟩ depth) := by
  induction depth generalizing node with
  | zero => exact agree_throw rfl
  | succ depth ih =>
      unfold evaluate
      cases loops : node.isWhile with
      | false =>
          have level := @evaluateLevel_simulated _ _ _ _ _
            (@beside_lawful printed excused ⟨file, rounds⟩) (fun child _ => ih child) depth node
            trivial
          have same : (beside printed excused).rebuilt node = node := node.rebuilt_id
          rw [same] at level
          rw [evaluateLevel_of_rounds loops file more rounds]
          exact level
      | true =>
          cases node with
          | whileLoop line condition body =>
              refine (evaluateWhile_of_more unfinished (ih condition) (ih body) enough 0 0).bind
                fun _ _ _ => (agree_note _ _).bind fun _ _ _ => agree_pure ⟨rfl, trivial⟩
          | _ => cases loops

omit unfinished in
theorem evaluate_of_more (file : String) {rounds more : Nat} (enough : rounds ≤ more)
    {depth deeper : Nat} (further : depth ≤ deeper) (node : Node) :
    upToCut.Agree upToCut.Values (node.evaluate ⟨file, rounds⟩ depth)
      (node.evaluate ⟨file, more⟩ deeper) := by
  intro machine other machines
  have ended := @evaluate_of_more_rounds #[] (·.isCut = true) rfl file _ _ enough deeper node
    machine other machines
  rcases node.evaluate_of_deeper ⟨file, rounds⟩ further machine with overflowed | same
  · generalize (node.evaluate ⟨file, rounds⟩ depth).outcome machine = left at overflowed
    obtain ⟨result, reached⟩ := left
    cases overflowed
    exact .excused rfl
  · rw [← same]
    exact ended

omit unfinished in
/-- An evaluation that is not cut off ends alike within more levels and rounds. -/
theorem evaluate_sameEnd_of_more (file : String) {rounds more : Nat} (enough : rounds ≤ more)
    {depth deeper : Nat} (further : depth ≤ deeper) {node : Node} {machine : Machine}
    (uncut : Uncut ((node.evaluate ⟨file, rounds⟩ depth).outcome machine)) :
    SameEnd ((node.evaluate ⟨file, rounds⟩ depth).outcome machine)
      ((node.evaluate ⟨file, more⟩ deeper).outcome machine) :=
  (evaluate_of_more file enough further node machine machine (beside_rfl machine)).sameEnd_of_uncut
    uncut

end Node

end Scriptlet
