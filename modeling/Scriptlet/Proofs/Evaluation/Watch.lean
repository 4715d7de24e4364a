import Scriptlet.Proofs.Evaluation.Vetting

/-!
Runs under watch. A property of values can be checked before and after the evaluation of every
node, in whatever scope it is evaluated, those of calls and loops included. If the property is
stable and holds at the start, the check never fails.
-/

namespace Scriptlet

namespace Eval

def EndsGood (good : Value → Prop) (ended : Except Stop Value × Machine) : Prop :=
  (∀ value, ended.1 = .ok value → good value) ∧ ended.2.scope.Every good

instance (good : Value → Prop) [DecidablePred good] : DecidablePred (EndsGood good)
  | (.ok value, machine) =>
      decidable_of_iff (good value ∧ machine.scope.Every good) (by simp [EndsGood])
  | (.error _, machine) => decidable_of_iff (machine.scope.Every good) (by simp [EndsGood])

/-- Runs an evaluation, but sounds the alarm instead if a value that it starts from or ends with is
not good. -/
def watched (good : Value → Prop) [DecidablePred good] (action alarm : Eval Value) : Eval Value :=
  fun machine =>
    if machine.scope.Every good ∧ EndsGood good (action.outcome machine) then
      action.outcome machine
    else alarm.outcome machine

end Eval

namespace Simulation

def itself (good : Value → Prop) : Simulation where
  change := id
  good := good

variable {good : Value → Prop}

theorem itself_lawful (stable : Value.Stable good) (setting : Setting) :
    (itself good).Lawful setting setting where
  stable := stable
  rounds := rfl
  overflow := rfl
  unfinished := rfl
  below _ _ _ _ := trivial
  names _ _ _ _ := rfl
  faults node cause _ _ := by
    have same : (itself good).rebuilt node = node := node.rebuilt_id
    rw [same]
    rfl

theorem itself_machines {machine other : Machine} :
    (itself good).Machines machine other ↔
      other.scope = machine.scope ∧ machine.scope.Every good ∧ other.output = machine.output := by
  have scopes : (itself good).Scopes machine.scope other.scope ↔ _ :=
    scopes_iff_of_unchanged (fun _ => rfl) rfl
  constructor
  · rintro ⟨related, output⟩
    obtain ⟨same, _, every⟩ := scopes.mp related
    exact ⟨same, every, (output.trans Array.empty_append).symm⟩
  · rintro ⟨same, every, output⟩
    exact ⟨scopes.mpr ⟨same, fun _ _ => trivial, every⟩, output ▸ Array.empty_append.symm⟩

theorem itself_rfl {machine : Machine} (every : machine.scope.Every good) :
    (itself good).Machines machine machine :=
  itself_machines.mpr ⟨rfl, every, rfl⟩

section Ended

variable {left right : Except Stop Value × Machine}
  (ended : (itself good).Ended (itself good).Values left right)

include ended

theorem Ended.of_itself :
    right.1 = left.1 ∧ right.2.scope = left.2.scope ∧ right.2.output = left.2.output := by
  obtain ⟨result, reached⟩ := ended.same (fun _ _ same => same.symm) fun _ => id
  obtain ⟨scope, _, output⟩ := itself_machines.mp reached
  exact ⟨result, scope, output⟩

theorem Ended.endsGood : Eval.EndsGood good left ∧ Eval.EndsGood good right := by
  have first : Eval.EndsGood good left := by
    cases ended with
    | finished same reached =>
        refine ⟨?_, reached.scopes.every⟩
        rintro _ ⟨⟩
        exact same.2
    | stopped _ reached => exact ⟨fun _ same => (by cases same), reached.scopes.every⟩
    | excused impossible => exact impossible.elim
  obtain ⟨result, scope, _⟩ := ended.of_itself
  refine ⟨first, ?_⟩
  rw [Eval.EndsGood, result, scope]
  exact first

end Ended

theorem Agree.watched [DecidablePred good] {action second alarm : Eval Value}
    (agree : (itself good).Agree (itself good).Values action second) :
    (itself good).Agree (itself good).Values action (second.watched good alarm) := by
  intro machine beside machines
  have ended := agree machine beside machines
  obtain ⟨scope, every, _⟩ := itself_machines.mp machines
  have quiet : (second.watched good alarm).outcome beside = second.outcome beside :=
    if_pos ⟨scope ▸ every, ended.endsGood.2⟩
  rw [quiet]
  exact ended

end Simulation

namespace Node

open Simulation

/-- Evaluates a node under watch: of the nodes one level further down, and of the bodies of the
functions it calls, each is watched as the node itself is. -/
def evaluateWatched (good : Value → Prop) [DecidablePred good] (alarm : Eval Value)
    (setting : Setting) : (depth : Nat) → Node → Eval Value
  | 0, _ => throw .overflow
  | depth + 1, node =>
      (evaluateLevel setting depth (evaluateWatched good alarm setting depth) node).watched good
        alarm

section Stable

variable {good : Value → Prop} (stable : Value.Stable good) (setting : Setting) (depth : Nat)

include stable

theorem evaluate_itself (node : Node) :
    (itself good).Agree (itself good).Values (node.evaluate setting depth)
      (node.evaluate setting depth) :=
  evaluate_simulated (itself_lawful stable setting)
    (fun depth node => congrArg (evaluate setting depth) node.rebuilt_id.symm) depth trivial

theorem evaluate_agrees_watched [DecidablePred good] (alarm : Eval Value) (node : Node) :
    (itself good).Agree (itself good).Values (node.evaluate setting depth)
      (node.evaluateWatched good alarm setting depth) := by
  induction depth generalizing node with
  | zero => exact agree_throw rfl
  | succ depth ih =>
      have level := evaluateLevel_simulated (itself_lawful stable setting)
        (fun child _ => ih child) depth (show (itself good).kept node from trivial)
      rw [show (itself good).rebuilt node = node from node.rebuilt_id] at level
      exact level.watched

variable {machine : Machine} (start : machine.scope.Every good)

include start

/-- From a scope of good values an evaluation gives and leaves good values, and goes the same way
under watch, whatever the alarm would do. -/
theorem evaluate_endsGood [DecidablePred good] (node : Node) :
    Eval.EndsGood good ((node.evaluate setting depth).outcome machine) ∧
    ∀ alarm : Eval Value,
      let watched := (node.evaluateWatched good alarm setting depth).outcome machine
      watched.1 = ((node.evaluate setting depth).outcome machine).1 ∧
        watched.2.scope = ((node.evaluate setting depth).outcome machine).2.scope ∧
        watched.2.output = ((node.evaluate setting depth).outcome machine).2.output :=
  ⟨(evaluate_itself stable setting depth node _ _ (itself_rfl start)).endsGood.1, fun alarm =>
    (evaluate_agrees_watched stable setting depth alarm node _ _ (itself_rfl start)).of_itself⟩

theorem evaluateAll_gives_good {nodes : List Node} {values : List Value}
    (evaluated : ((evaluateAll (evaluate setting depth) nodes).outcome machine).1 = .ok values) :
    ∀ value ∈ values, good value := by
  have ended := evaluateAll_simulated (fun node _ => evaluate_itself stable setting depth node)
    (fun node (_ : node ∈ nodes) => trivial) machine machine (itself_rfl start)
  obtain ⟨_, _, goods⟩ := ended.of_ok evaluated
  exact goods

end Stable

end Node

end Scriptlet
