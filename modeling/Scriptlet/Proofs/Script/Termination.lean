import Scriptlet.Proofs.Evaluation.Nesting
import Scriptlet.Proofs.Evaluation.Rounds
import Scriptlet.Script

/-!
Scripts without while loops end. However their functions call and declare each other, and however
their for loops nest, the recursion limit is the only bound that they can meet; and without calls
they do not meet that either, if it is no less than what the size of the tree and the nesting of the
variables ask for.
-/

namespace Scriptlet

namespace Node

open Eval

def WhileFree : Node → Prop :=
  Everywhere fun node => node.isWhile = false

/-- Whether a tree has no calls of functions. Calls of members do not count. -/
def CallFree : Node → Prop :=
  Everywhere fun node => node.isCall = false

theorem progression_true : Progression (fun _ _ => True) fun _ _ => True :=
  ⟨fun _ => trivial, fun _ _ _ _ _ => trivial, fun _ _ => trivial, fun _ _ _ _ _ _ => trivial,
    fun _ _ _ _ => trivial⟩

/-- If every while loop is taken for an overflow, nothing is left unfinished. -/
theorem evaluateVetted_ends (setting : Setting) (depth : Nat) (node : Node) (machine : Machine) :
    (node.evaluateVetted (fun node => !node.isWhile) (throw .overflow) setting depth).Meets
      (fun _ _ => True) (· ≠ .unfinished) machine := by
  induction depth generalizing node machine with
  | zero => exact meets_throw progression_true (by simp)
  | succ depth ih =>
      unfold evaluateVetted
      cases loops : node.isWhile with
      | true => exact meets_throw progression_true (by simp)
      | false =>
          refine @evaluateLevel_meets _ _ (· ≠ .unfinished) progression_true setting _ machine
            (by simp) depth node (by simp) (fun loop => ?_) (fun part entered _ => ih part entered)
            (fun body entered _ => ih body entered) fun _ _ _ => trivial
          rw [loops] at loop
          cases loop

section WhileFree

variable {node : Node} {machine : Machine} (whileFree : node.WhileFree)
  (bodies : machine.scope.Keeps WhileFree)

include whileFree bodies

theorem evaluate_endsAmong_whileFree (setting : Setting) (depth : Nat) :
    EndsAmong WhileFree setting.file ((node.evaluate setting depth).outcome machine)
      ((node.evaluateVetted (fun node => !node.isWhile) (throw .overflow) setting depth).outcome
        machine) :=
  evaluate_endsAmong (closed_everywhere _) (fun _ free => by simp [free.here]) _ setting depth
    whileFree rfl rfl bodies

theorem evaluate_ne_unfinished (setting : Setting) (depth : Nat) :
    ((node.evaluate setting depth).outcome machine).1 ≠ .error .unfinished := by
  intro stopped
  have ended := evaluate_endsAmong_whileFree whileFree bodies setting depth
  rw [← ended.result] at stopped
  exact (evaluateVetted_ends setting depth node machine).stops _ stopped rfl

theorem evaluate_sameEnd_of_whileFree (file : String) (rounds others depth : Nat) :
    SameEnd ((node.evaluate ⟨file, rounds⟩ depth).outcome machine)
      ((node.evaluate ⟨file, others⟩ depth).outcome machine) := by
  -- No rounds at all are enough, so any number of them leads to the same end.
  have fromNone (rounds : Nat) : SameEnd ((node.evaluate ⟨file, 0⟩ depth).outcome machine)
      ((node.evaluate ⟨file, rounds⟩ depth).outcome machine) := by
    have ended := @evaluate_of_more_rounds #[] (· = .unfinished) rfl file 0 rounds (Nat.zero_le _)
      depth node machine machine (Simulation.beside_rfl machine)
    refine ended.sameEnd_beside ?_
    rintro stop stopped rfl
    exact evaluate_ne_unfinished whileFree bodies ⟨file, 0⟩ depth stopped
  exact (fromNone rounds).symm.trans (fromNone others)

end WhileFree

end Node

namespace Script

/-- A script without while loops, in a scope whose functions have none, ends for every recursion
limit: it finishes, or it fails with a fault of the evaluation, which may be that the limit was
reached. How many rounds a loop could have makes no difference. If it has no calls either, it does
not reach a limit of three times its size and twice the nesting of the variables. -/
theorem evaluate_terminates_of_whileFree (file : String) (tree : Node) (machine : Machine)
    (whileFree : tree.WhileFree) (bodies : machine.scope.Keeps Node.WhileFree) (bounds : Bounds) :
    let ended := evaluate bounds file tree machine
    ((∃ value, ended.1 = .finished value) ∨
      ∃ fault, ended.1 = .failed fault ∧ fault.cause.stage = .evaluation) ∧
    (∀ rounds,
      let other := evaluate ⟨bounds.limit, rounds⟩ file tree machine
      other.1 = ended.1 ∧ other.2.scope = ended.2.scope ∧ other.2.output = ended.2.output) ∧
    (tree.CallFree → 3 * tree.size + 2 * machine.scope.nesting ≤ bounds.limit →
      ∀ fault, ended.1 = .failed fault → fault.cause ≠ .stackOverflow) := by
  obtain ⟨limit, rounds⟩ := bounds
  have among := Node.evaluate_endsAmong_whileFree whileFree bodies ⟨file, rounds⟩ limit
  simp only [evaluate, Eval.run_eq_outcome]
  refine ⟨?_, fun others => ?_, fun callFree enough fault failed => ?_⟩
  · rcases ended : ((tree.evaluate ⟨file, rounds⟩ limit).outcome machine).1 with
      (fault | _ | _) | value
    · obtain ⟨node, _, raised⟩ := among.faults fault ended
      exact .inr ⟨fault, rfl, raised.cause.answers.stage⟩
    · exact .inr ⟨_, rfl, rfl⟩
    · exact absurd ended (Node.evaluate_ne_unfinished whileFree bodies _ _)
    · exact .inl ⟨value, rfl⟩
  · have alike := Node.evaluate_sameEnd_of_whileFree whileFree bodies file rounds others limit
    exact ⟨congrArg (Eval.ending file) alike.result, alike.scope, alike.output⟩
  · have within := @Node.evaluate_nests ⟨file, rounds⟩ limit machine.scope.nesting tree callFree
      whileFree enough machine (Nat.le_refl _)
    generalize (tree.evaluate ⟨file, rounds⟩ limit).outcome machine = outcome at within failed among
    cases within with
    | finished => cases failed
    | @stopped stop _ shallow =>
        cases stop with
        | fault met =>
            cases failed
            obtain ⟨node, _, raised⟩ := among.faults fault rfl
            exact raised.cause.answers.shallow
        | overflow => exact absurd rfl shallow
        | unfinished => cases failed

/-- `fun f() { fun f() { g(); } f(); } fun g() { f(); } f();`: functions that call and declare each
other without end. -/
def entangled : Node :=
  .sequence 1
    [.function 1 "f" [] (.sequence 1
        [.function 1 "f" [] (.sequence 1 [.expression 1 (.call 1 "g" [])]),
          .expression 1 (.call 1 "f" [])]),
      .function 1 "g" [] (.sequence 1 [.expression 1 (.call 1 "f" [])]),
      .expression 1 (.call 1 "f" [])]

/-- `x := [[1]]; for (e) (x) { for (d) ([e]) { io::println(d); } }` -/
def nestedLoops : Node :=
  .sequence 1
    [.assign 1 "x" .define (.array 1 [.array 1 [.int 1 1]]),
      .forLoop 1 "e" (.reference 1 "x") (.sequence 1
        [.forLoop 1 "d" (.array 1 [.reference 1 "e"]) (.sequence 1
          [.expression 1 (.member 1 "io" 1 "println" [.reference 1 "d"])])])]

theorem evaluate_entangled_and_nestedLoops_terminate :
    (∀ limit rounds others,
      (evaluate ⟨limit, rounds⟩ "main" entangled {}).2.output =
        (evaluate ⟨limit, others⟩ "main" entangled {}).2.output ∧
      ((∃ value, (evaluate ⟨limit, rounds⟩ "main" entangled {}).1 = .finished value) ∨
        ∃ fault, (evaluate ⟨limit, rounds⟩ "main" entangled {}).1 = .failed fault ∧
          fault.cause.stage = .evaluation)) ∧
    3 * nestedLoops.size + 2 * ({} : Scope).nesting = 45 ∧
    ∀ fault, (evaluate ⟨45, 0⟩ "main" nestedLoops {}).1 = .failed fault →
      fault.cause ≠ .stackOverflow := by
  have bodies : ({} : Scope).Keeps Node.WhileFree := fun _ member => absurd member List.not_mem_nil
  have whileFree {tree : Node} (passed : tree.passes (fun node => !node.isWhile) 16 = true) :
      tree.WhileFree :=
    fun part occurs => by simpa using Node.everywhere_of_passes passed part occurs
  have callFree : nestedLoops.CallFree := by
    have passed : nestedLoops.passes (fun node => !node.isCall) 16 = true := by decide
    exact fun part occurs => by simpa using Node.everywhere_of_passes passed part occurs
  refine ⟨fun limit rounds others => ?_, by decide, ?_⟩
  · obtain ⟨ends, same, _⟩ := evaluate_terminates_of_whileFree "main" entangled {}
      (whileFree (by decide)) bodies ⟨limit, rounds⟩
    exact ⟨(same others).2.2.symm, ends⟩
  · obtain ⟨_, _, shallow⟩ := evaluate_terminates_of_whileFree "main" nestedLoops {}
      (whileFree (by decide)) bodies ⟨45, 0⟩
    exact shallow callFree (by decide)

end Script

end Scriptlet
