import Scriptlet.Proofs.Evaluation.Rounds

/-!
Unrolling while loops. A while loop does what a conditional does that has its condition and, in the
block, its statements and then the loop again. The two go down by different numbers of levels and
count their rounds from different starts, so neither simulates the other within the same bounds;
but each comes to the end of the other with two more levels and two more rounds.
-/

namespace Scriptlet

namespace Node

open Eval Simulation

def evaluateRound (condition body rest done : Eval Value) : Eval Value := do
  if (← condition).truthy then
    let _ ← body
    rest
  else done

def countRounds (line : Nat) (rounds : Eval Nat) : Eval Value := do
  let count ← rounds
  note (.loop line count)
  return .invalid

section Agree

variable {simulation : Simulation} {condition body rest done : Eval Value}
  {otherCondition otherBody otherRest otherDone : Eval Value}

theorem evaluateRound_agrees
    (conditions : simulation.Agree simulation.Values condition otherCondition)
    (bodies : simulation.Agree simulation.Values body otherBody)
    (rests : simulation.Agree simulation.Values rest otherRest)
    (dones : simulation.Agree simulation.Values done otherDone) :
    simulation.Agree simulation.Values (evaluateRound condition body rest done)
      (evaluateRound otherCondition otherBody otherRest otherDone) := by
  refine conditions.bind fun value _ same => ?_
  obtain ⟨rfl, _⟩ := same
  by_cases holds : value.truthy = true
  · rw [if_pos holds, if_pos holds]
    exact bodies.bind fun _ _ _ => rests
  · rw [if_neg holds, if_neg holds]
    exact dones

theorem countRounds_agrees {rounds others : Eval Nat}
    (agree : simulation.Agree (fun _ _ => True) rounds others) (line : Nat)
    (invalid : simulation.good .invalid) :
    simulation.Agree simulation.Values (countRounds line rounds) (countRounds line others) :=
  agree.bind fun _ _ _ => (agree_note _ _).bind fun _ _ _ => agree_pure ⟨rfl, invalid⟩

theorem countRounds_agrees_pure (line : Nat) (invalid : simulation.good .invalid) :
    simulation.Agree simulation.Values (countRounds line (pure 0)) (pure .invalid) :=
  fun _ _ machines => .finished ⟨rfl, invalid⟩ ⟨machines.scopes, machines.output⟩

theorem pure_agrees_countRounds (line : Nat) (invalid : simulation.good .invalid) :
    simulation.Agree simulation.Values (pure .invalid) (countRounds line (pure 0)) :=
  fun _ _ machines => .finished ⟨rfl, invalid⟩ ⟨machines.scopes, machines.output⟩

end Agree

theorem evaluate_whileLoop_of_running {machine : Machine} (running : machine.scope.returned = false)
    (file : String) (rounds depth line : Nat) (condition body : Node) :
    ((whileLoop line condition body).evaluate ⟨file, rounds + 1⟩ (depth + 1)).outcome machine =
      (evaluateRound (condition.evaluate ⟨file, rounds + 1⟩ depth)
        (body.evaluate ⟨file, rounds + 1⟩ depth)
        (countRounds line (evaluateWhile (condition.evaluate ⟨file, rounds + 1⟩ depth)
          (body.evaluate ⟨file, rounds + 1⟩ depth) rounds 1))
        (countRounds line (pure 0))).outcome machine := by
  have goesOn : ¬ machine.scope.returned = true := by simp [running]
  simp only [evaluate, evaluateLevel, evaluateWhile, evaluateRound, countRounds, outcome_bind,
    outcome_scope, andThen, if_neg goesOn]
  rcases (condition.evaluate ⟨file, rounds + 1⟩ depth).outcome machine with ⟨stop | value, tested⟩
  · rfl
  · by_cases holds : value.truthy = true
    · simp only [if_pos holds, outcome_bind]
      rcases (body.evaluate ⟨file, rounds + 1⟩ depth).outcome tested with ⟨stop | result, reached⟩
      · rfl
      · simp only [andThen, outcome_bind]
    · simp only [if_neg holds, outcome_bind, outcome_pure, andThen]

theorem evaluate_whileLoop_of_returned {machine : Machine}
    (returned : machine.scope.returned = true) (file : String) (rounds depth line : Nat)
    (condition body : Node) :
    SameEnd
      (((whileLoop line condition body).evaluate ⟨file, rounds + 1⟩ (depth + 1)).outcome machine)
      (.ok .invalid, machine) := by
  simp only [evaluate, evaluateLevel, evaluateWhile, outcome_bind, outcome_scope, andThen, returned,
    if_true, outcome_pure, outcome_note]
  exact ⟨rfl, rfl, rfl⟩

theorem invalid_of_evaluate_whileLoop {setting : Setting} {depth line : Nat} {condition body : Node}
    {machine reached : Machine} {value : Value}
    (ended : ((whileLoop line condition body).evaluate setting depth).outcome machine =
      (.ok value, reached)) : value = .invalid := by
  cases depth with
  | zero => cases ended
  | succ depth =>
      rw [evaluate, evaluateLevel, outcome_bind] at ended
      rcases counted : (evaluateWhile (condition.evaluate setting depth)
        (body.evaluate setting depth) setting.rounds 0).outcome machine with ⟨stop | count, last⟩
      · rw [counted] at ended
        cases ended
      · rw [counted] at ended
        cases ended
        rfl

/-- Statements and a last one that does nothing after a return: it makes no difference whether the
return is noticed. -/
theorem evaluateSequence_snoc {step : Node → Eval Value} {last : Node}
    (yields : ∀ machine value reached, (step last).outcome machine = (.ok value, reached) →
      value = .invalid)
    (idles : ∀ machine, machine.scope.returned = true →
      SameEnd ((step last).outcome machine) (.ok .invalid, machine))
    (nodes : List Node) (machine : Machine) :
    SameEnd ((evaluateSequence step nodes >>= fun _ => step last).outcome machine)
      ((evaluateSequence step (nodes ++ [last]) >>= fun _ => pure .invalid).outcome machine) := by
  induction nodes generalizing machine with
  | nil =>
      simp only [evaluateSequence, List.nil_append, ite_self, pure_bind, bind_assoc, outcome_bind]
      rcases ended : (step last).outcome machine with ⟨stop | value, reached⟩
      · exact sameEnd_rfl
      · rw [yields machine value reached ended]
        exact sameEnd_rfl
  | cons node rest ih =>
      simp only [evaluateSequence, List.cons_append, bind_assoc, outcome_bind _ _ machine]
      rcases (step node).outcome machine with ⟨stop | value, reached⟩
      · exact sameEnd_rfl
      · simp only [andThen, outcome_bind Eval.scope, outcome_scope]
        by_cases returned : reached.scope.returned = true
        · -- Only here do the two differ: the sequence leaves out the last statement.
          simp only [returned, if_true, pure_bind, outcome_pure]
          exact idles reached returned
        · simp only [if_neg returned]
          exact ih reached

end Node

/-- A while loop over a block of statements, with its lines and those of what it unrolls to. -/
structure Loop where
  line : Nat
  blockLine : Nat
  ifLine : Nat
  thenLine : Nat
  condition : Node
  statements : List Node

namespace Loop

open Eval Simulation

def block (loop : Loop) : Node :=
  .sequence loop.blockLine loop.statements

def node (loop : Loop) : Node :=
  .whileLoop loop.line loop.condition loop.block

/-- The conditional with the statements of the loop, and then the loop again, in its block. -/
def unrolled (loop : Loop) : Node :=
  .conditional loop.ifLine loop.condition
    (.sequence loop.thenLine (loop.statements ++ [loop.node])) none

variable (loop : Loop) (file : String)

def round (rounds depth : Nat) : Eval Value :=
  Node.evaluateRound (loop.condition.evaluate ⟨file, rounds⟩ (depth + 1))
    (loop.block.evaluate ⟨file, rounds⟩ (depth + 1)) (loop.node.evaluate ⟨file, rounds⟩ depth)
    (pure .invalid)

theorem round_sameEnd_unrolled (rounds depth : Nat) (machine : Machine) :
    SameEnd ((loop.round file (rounds + 1) (depth + 1)).outcome machine)
      ((loop.unrolled.evaluate ⟨file, rounds + 1⟩ (depth + 3)).outcome machine) := by
  have snoc := @Node.evaluateSequence_snoc (Node.evaluate ⟨file, rounds + 1⟩ (depth + 1)) loop.node
    (fun _ _ _ => Node.invalid_of_evaluate_whileLoop)
    (fun _ returned => Node.evaluate_whileLoop_of_returned returned file rounds depth _ _ _)
    loop.statements
  have opened : loop.unrolled.evaluate ⟨file, rounds + 1⟩ (depth + 3) =
      loop.condition.evaluate ⟨file, rounds + 1⟩ (depth + 2) >>= fun value =>
        if value.truthy then
          Node.evaluateSequence (Node.evaluate ⟨file, rounds + 1⟩ (depth + 1))
            (loop.statements ++ [loop.node]) >>= fun _ => pure .invalid
        else pure .invalid := rfl
  have openedBlock : loop.block.evaluate ⟨file, rounds + 1⟩ (depth + 2) =
      Node.evaluateSequence (Node.evaluate ⟨file, rounds + 1⟩ (depth + 1)) loop.statements >>=
        fun _ => pure .invalid := rfl
  rw [opened, round, Node.evaluateRound, outcome_bind, outcome_bind, openedBlock]
  rcases (loop.condition.evaluate ⟨file, rounds + 1⟩ (depth + 2)).outcome machine with
    ⟨stop | value, tested⟩
  · exact sameEnd_rfl
  · rw [andThen, andThen]
    by_cases holds : value.truthy = true
    · rw [if_pos holds, if_pos holds, bind_assoc]
      exact snoc tested
    · rw [if_neg holds, if_neg holds]
      exact sameEnd_rfl

theorem rounds_agree {rounds more : Nat} (enough : rounds ≤ more) {depth deeper : Nat}
    (further : depth ≤ deeper) {left others : Nat} (within : left ≤ others) (count start : Nat) :
    upToCut.Agree (fun _ _ => True)
      (Node.evaluateWhile (loop.condition.evaluate ⟨file, rounds⟩ depth)
        (loop.block.evaluate ⟨file, rounds⟩ depth) left count)
      (Node.evaluateWhile (loop.condition.evaluate ⟨file, more⟩ deeper)
        (loop.block.evaluate ⟨file, more⟩ deeper) others start) :=
  @Node.evaluateWhile_of_more #[] (·.isCut = true) rfl _ _ _ _
    (Node.evaluate_of_more file enough further _) (Node.evaluate_of_more file enough further _) _ _
    within count start

section Running

variable {machine : Machine} (running : machine.scope.returned = false)

include running

theorem node_sameEnd_unrolled {rounds depth : Nat}
    (uncut : Uncut ((loop.node.evaluate ⟨file, rounds⟩ depth).outcome machine)) :
    SameEnd ((loop.node.evaluate ⟨file, rounds⟩ depth).outcome machine)
      ((loop.unrolled.evaluate ⟨file, rounds + 2⟩ (depth + 2)).outcome machine) := by
  cases depth with
  | zero => cases uncut .overflow rfl
  | succ depth =>
      cases rounds with
      | zero => cases uncut .unfinished rfl
      | succ rounds =>
          have ended : upToCut.Ended upToCut.Values
              ((loop.node.evaluate ⟨file, rounds + 1⟩ (depth + 1)).outcome machine)
              ((loop.round file (rounds + 1) (depth + 1)).outcome machine) := by
            rw [node, Node.evaluate_whileLoop_of_running running]
            refine Node.evaluateRound_agrees
              (Node.evaluate_of_more file (Nat.le_refl _) (by omega) _)
              (Node.evaluate_of_more file (Nat.le_refl _) (by omega) _)
              (Node.countRounds_agrees ?_ loop.line trivial)
              (Node.countRounds_agrees_pure loop.line trivial) machine machine (beside_rfl machine)
            exact loop.rounds_agree file (Nat.le_refl _) (Nat.le_refl _) (Nat.le_succ _) 1 0
          have alike := (ended.sameEnd_of_uncut uncut).trans
            (loop.round_sameEnd_unrolled file rounds depth machine)
          exact alike.trans
            (Node.evaluate_sameEnd_of_more file (by omega) (Nat.le_refl _) (alike.uncut uncut))

theorem unrolled_sameEnd_node {rounds depth : Nat}
    (uncut : Uncut ((loop.unrolled.evaluate ⟨file, rounds⟩ depth).outcome machine)) :
    SameEnd ((loop.unrolled.evaluate ⟨file, rounds⟩ depth).outcome machine)
      ((loop.node.evaluate ⟨file, rounds + 2⟩ (depth + 2)).outcome machine) := by
  cases depth with
  | zero => cases uncut .overflow rfl
  | succ depth =>
      have ended : upToCut.Ended upToCut.Values
          ((loop.round file (rounds + 1) (depth + 1)).outcome machine)
          ((loop.node.evaluate ⟨file, rounds + 2⟩ (depth + 3)).outcome machine) := by
        rw [node, Node.evaluate_whileLoop_of_running running file (rounds + 1) (depth + 2)]
        refine Node.evaluateRound_agrees
          (Node.evaluate_of_more file (Nat.le_succ _) (Nat.le_refl _) _)
          (Node.evaluate_of_more file (Nat.le_succ _) (Nat.le_refl _) _)
          (Node.countRounds_agrees ?_ loop.line trivial)
          (Node.pure_agrees_countRounds loop.line trivial) machine machine (beside_rfl machine)
        exact loop.rounds_agree file (Nat.le_succ _) (Nat.le_add_right _ 2) (Nat.le_refl _) 0 1
      have widened := @Node.evaluate_sameEnd_of_more file rounds (rounds + 1) (Nat.le_succ _)
        (depth + 1) (depth + 3) (by omega) loop.unrolled machine uncut
      have alike := widened.trans (loop.round_sameEnd_unrolled file rounds depth machine).symm
      exact alike.trans (ended.sameEnd_of_uncut (alike.uncut uncut))

end Running

/-- A while loop that has not returned and what it unrolls to have the same ends. If one of them
comes to its own end within some bounds, so does the other with two more levels and two more rounds;
and wherever both do, they end in the same result or fault, with the same output and scope. -/
theorem unrolled_ends_alike (machine : Machine) (running : machine.scope.returned = false) :
    (∀ depth rounds, Uncut ((loop.node.evaluate ⟨file, rounds⟩ depth).outcome machine) →
      Uncut ((loop.unrolled.evaluate ⟨file, rounds + 2⟩ (depth + 2)).outcome machine)) ∧
    (∀ depth rounds, Uncut ((loop.unrolled.evaluate ⟨file, rounds⟩ depth).outcome machine) →
      Uncut ((loop.node.evaluate ⟨file, rounds + 2⟩ (depth + 2)).outcome machine)) ∧
    ∀ depth rounds deeper more,
      Uncut ((loop.node.evaluate ⟨file, rounds⟩ depth).outcome machine) →
      Uncut ((loop.unrolled.evaluate ⟨file, more⟩ deeper).outcome machine) →
      SameEnd ((loop.node.evaluate ⟨file, rounds⟩ depth).outcome machine)
        ((loop.unrolled.evaluate ⟨file, more⟩ deeper).outcome machine) := by
  refine ⟨fun depth rounds uncut => (loop.node_sameEnd_unrolled file running uncut).uncut uncut,
    fun depth rounds uncut => (loop.unrolled_sameEnd_node file running uncut).uncut uncut, ?_⟩
  intro depth rounds deeper more uncut otherUncut
  -- Both are compared with the loop within bounds that are enough for either.
  have back := loop.unrolled_sameEnd_node file running otherUncut
  have first := @Node.evaluate_sameEnd_of_more file rounds (max rounds (more + 2))
    (Nat.le_max_left _ _) depth (max depth (deeper + 2)) (Nat.le_max_left _ _) loop.node machine
    uncut
  have second := @Node.evaluate_sameEnd_of_more file (more + 2) (max rounds (more + 2))
    (Nat.le_max_right _ _) (deeper + 2) (max depth (deeper + 2)) (Nat.le_max_right _ _) loop.node
    machine (back.uncut otherUncut)
  exact first.trans (second.symm.trans back.symm)

/-- `while (f()) { io::println(1); fun f() { return 0; } }` -/
def selfStopping : Loop where
  line := 1
  blockLine := 1
  ifLine := 1
  thenLine := 1
  condition := .call 1 "f" []
  statements :=
    [.expression 1 (.member 1 "io" 1 "println" [.int 1 1]),
      .function 1 "f" [] (.sequence 1 [.returns 1 (some (.int 1 0))])]

theorem selfStopping_unrolled_ends_alike :
    ∃ machine : Machine, machine.scope.returned = false ∧
      Uncut ((selfStopping.node.evaluate ⟨"main", 3⟩ 10).outcome machine) ∧
      Uncut ((selfStopping.unrolled.evaluate ⟨"main", 5⟩ 12).outcome machine) ∧
      ((selfStopping.unrolled.evaluate ⟨"main", 5⟩ 12).outcome machine).2.output =
        #["dbg out: 1\n"] := by
  let machine : Machine :=
    ⟨({} : Scope).setFunction "f" ⟨[], .sequence 1 [.returns 1 (some (.int 1 1))]⟩, #[], #[]⟩
  have uncut : Uncut ((selfStopping.node.evaluate ⟨"main", 3⟩ 10).outcome machine) := by
    intro stop stopped
    have finished : ((selfStopping.node.evaluate ⟨"main", 3⟩ 10).outcome machine).1 =
      .ok .invalid := rfl
    rw [finished] at stopped
    cases stopped
  have printed : ((selfStopping.node.evaluate ⟨"main", 3⟩ 10).outcome machine).2.output =
      #["dbg out: 1\n"] := by decide +kernel
  obtain ⟨ends, _, alike⟩ := unrolled_ends_alike selfStopping "main" machine rfl
  have otherUncut := ends 10 3 uncut
  exact ⟨machine, rfl, uncut, otherUncut, (alike 10 3 12 5 uncut otherUncut).output.trans printed⟩

end Loop

end Scriptlet
