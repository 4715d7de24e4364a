import Scriptlet.Proofs.Evaluation.Watch
import Scriptlet.Proofs.Value.Leaves
import Scriptlet.Proofs.Value.Made

/-!
Nil is never made. It is there to be looked for first by every binary operator, by conditions and by
rendering, but no literal, operator, call or missing value gives it. So a run from a scope without
nil, such as a fresh one, never comes to hold it anywhere.
-/

namespace Scriptlet

namespace Value

def isNil : Value → Bool
  | nil => true
  | _ => false

def NilFree (value : Value) : Prop :=
  ∀ leaf ∈ value.leaves, leaf.isNil = false

instance : DecidablePred NilFree :=
  fun value => inferInstanceAs (Decidable (∀ leaf ∈ value.leaves, leaf.isNil = false))

theorem nilFree_of_leaf {value : Value} (leaf : value.leaves = [value])
    (present : value.isNil = false) : value.NilFree := by
  intro part member
  rw [leaf] at member
  rw [List.mem_singleton.mp member]
  exact present

theorem NilFree.ne_nil {value : Value} (free : value.NilFree) : value ≠ .nil := by
  rintro rfl
  have present := free .nil (by simp [leaves])
  cases present

theorem Made.nilFree {bounded : Prop} {value : Value} (made : value.Made bounded) :
    value.NilFree := by
  cases made with
  | invalid | int | float | bool | string => exact nilFree_of_leaf rfl rfl

end Value

theorem Value.stable_nilFree : Value.Stable Value.NilFree where
  invalid := nilFree_of_leaf rfl rfl
  literal _ := nilFree_of_leaf rfl rfl
  float _ := nilFree_of_leaf rfl rfl
  string _ := nilFree_of_leaf rfl rfl
  array := forall_leaves_array
  apply left right applied := by
    rcases Operator.made_of_apply (fun _ _ => False.elim) applied with ⟨_, same | same⟩ | made
    · exact absurd same left.ne_nil
    · exact absurd same right.ne_nil
    · exact made.nilFree
  applyUnary _ applied := by
    have made : Value.Made False _ := Operator.made_of_applyUnary applied
    exact made.nilFree

namespace Node

/-- From a scope without nil, no evaluation, however it ends, gives nil, passes it to a function or
to `println`, or leaves it in the scope; and an alarm that would be sounded if any scope on the way
held nil, or any node gave it, makes no difference. -/
theorem evaluate_never_makes_nil (setting : Setting) (depth : Nat) (node : Node)
    (machine : Machine) (start : machine.scope.Every Value.NilFree) :
    (∀ value, ((node.evaluate setting depth).outcome machine).1 = .ok value → value.NilFree) ∧
    (∀ arguments values,
      ((evaluateAll (evaluate setting depth) arguments).outcome machine).1 = .ok values →
        ∀ value ∈ values, value.NilFree) ∧
    ((node.evaluate setting depth).outcome machine).2.scope.Every Value.NilFree ∧
    ∀ alarm : Eval Value,
      let watched := (node.evaluateWatched Value.NilFree alarm setting depth).outcome machine
      watched.1 = ((node.evaluate setting depth).outcome machine).1 ∧
        watched.2.scope = ((node.evaluate setting depth).outcome machine).2.scope ∧
        watched.2.output = ((node.evaluate setting depth).outcome machine).2.output := by
  obtain ⟨⟨gives, leaves⟩, quiet⟩ :=
    evaluate_endsGood Value.stable_nilFree setting depth start node
  refine ⟨gives, fun arguments values evaluated => ?_, leaves, quiet⟩
  exact evaluateAll_gives_good Value.stable_nilFree setting depth start evaluated

/-- `fun f(a, b) { io::println([a, [a]]); return; } x := f(1); for (e) ([x]) { y := e ~ 1; }`: a
parameter without an argument, a return without a value and an operator without a rule. -/
def valueless : Node :=
  .sequence 1
    [.function 1 "f" ["a", "b"] (.sequence 1
        [.expression 1 (.member 1 "io" 1 "println"
          [.array 1 [.reference 1 "a", .array 1 [.reference 1 "a"]]]), .returns 1 none]),
      .assign 1 "x" .define (.call 1 "f" [.int 1 1]),
      .forLoop 1 "e" (.array 1 [.reference 1 "x"])
        (.sequence 1
          [.assign 1 "y" .define (.binary 1 (.unknown "~") (.reference 1 "e") (.int 1 1))])]

theorem evaluate_valueless_never_makes_nil :
    ({} : Scope).Every Value.NilFree ∧
    ((valueless.evaluate ⟨"<stdin>", 8⟩ 10).outcome {}).2.scope.Every Value.NilFree ∧
    ((valueless.evaluateWatched Value.NilFree (throw .unfinished) ⟨"<stdin>", 8⟩ 10).outcome
      {}).2.scope.values.get? "x" = some .invalid ∧
    ((valueless.evaluateWatched Value.NilFree (throw .unfinished) ⟨"<stdin>", 8⟩ 10).outcome
      {}).2.output = #["dbg out: [1, [1, ], ]\n"] := by
  have start : ({} : Scope).Every Value.NilFree := by decide
  obtain ⟨_, _, after, quiet⟩ := evaluate_never_makes_nil ⟨"<stdin>", 8⟩ 10 valueless {} start
  obtain ⟨_, scopes, outputs⟩ := quiet (throw .unfinished)
  refine ⟨start, after, ?_, ?_⟩
  · rw [scopes]
    rfl
  · rw [outputs]
    rfl

end Node

end Scriptlet
