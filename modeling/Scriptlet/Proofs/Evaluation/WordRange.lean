import Scriptlet.Proofs.Evaluation.Watch
import Scriptlet.Proofs.Value.Leaves
import Scriptlet.Proofs.Value.Made

/-!
Integers stay in the signed 64-bit range. The literals are wrapped into it and operators stay in it,
checked or not. To see all the scopes of a run, those of calls and loops included, the run is
watched: before and after the evaluation of every node an alarm is sounded if a value is out of
range. The alarm is never heard.
-/

namespace Scriptlet

namespace Value

def wordSized : Value → Bool
  | int n => Number.fitsWord n
  | _ => true

def InRange (value : Value) : Prop :=
  ∀ leaf ∈ value.leaves, leaf.wordSized = true

instance : DecidablePred InRange :=
  fun value => inferInstanceAs (Decidable (∀ leaf ∈ value.leaves, leaf.wordSized = true))

@[simp] theorem inRange_int {n : Int} : (int n).InRange ↔ Number.fitsWord n = true := by
  simp [InRange, leaves, wordSized]

@[simp] theorem inRange_nil : nil.InRange := by
  simp [InRange, leaves, wordSized]

@[simp] theorem inRange_invalid : invalid.InRange := by
  simp [InRange, leaves, wordSized]

@[simp] theorem inRange_bool (value : Bool) : (bool value).InRange := by
  simp [InRange, leaves, wordSized]

@[simp] theorem inRange_float (value : Float) : (float value).InRange := by
  simp [InRange, leaves, wordSized]

@[simp] theorem inRange_string (value : String) : (string value).InRange := by
  simp [InRange, leaves, wordSized]

theorem Made.inRange {bounded : Prop} {value : Value} (made : value.Made bounded)
    (holds : bounded) : value.InRange := by
  cases made with
  | invalid => exact inRange_invalid
  | int fits => exact inRange_int.mpr (fits holds)
  | float => exact inRange_float _
  | bool => exact inRange_bool _
  | string => exact inRange_string _

end Value

namespace Operator

open Value

theorem inRange_apply {op : Operator} {left right result : Value} (leftFits : left.InRange)
    (applied : op.apply left right = .ok result) : result.InRange := by
  have fits (x : Int) (same : left = .int x) (_ : True) : Number.fitsWord x = true := by
    rw [same] at leftFits
    exact inRange_int.mp leftFits
  rcases made_of_apply fits applied with ⟨rfl, _⟩ | made
  · exact inRange_nil
  · exact made.inRange trivial

theorem inRange_applyUnary {op : Operator} {operand result : Value}
    (applied : op.applyUnary operand = .ok result) : result.InRange := by
  have made : result.Made True := made_of_applyUnary applied
  exact made.inRange trivial

end Operator

theorem Value.stable_inRange : Value.Stable Value.InRange where
  invalid := inRange_invalid
  literal n := inRange_int.mpr (Number.fitsWord_wrapWord n)
  float := inRange_float
  string := inRange_string
  array := forall_leaves_array
  apply leftFits _ made := Operator.inRange_apply leftFits made
  applyUnary _ made := Operator.inRange_applyUnary made

namespace Node

/-- From a scope of integers in the signed 64-bit range, every evaluation, however it ends, gives
and leaves only such integers, and the alarm that would be sounded if any scope on the way held
another one, or any node gave one, makes no difference. -/
theorem evaluate_stays_in_word_range (setting : Setting) (depth : Nat) (node : Node)
    (machine : Machine) (start : machine.scope.Every Value.InRange) :
    (∀ value, ((node.evaluate setting depth).outcome machine).1 = .ok value → value.InRange) ∧
    ((node.evaluate setting depth).outcome machine).2.scope.Every Value.InRange ∧
    ∀ alarm : Eval Value,
      ((node.evaluateWatched Value.InRange alarm setting depth).outcome machine).1 =
        ((node.evaluate setting depth).outcome machine).1 ∧
      ((node.evaluateWatched Value.InRange alarm setting depth).outcome machine).2.scope =
        ((node.evaluate setting depth).outcome machine).2.scope ∧
      ((node.evaluateWatched Value.InRange alarm setting depth).outcome machine).2.output =
        ((node.evaluate setting depth).outcome machine).2.output := by
  obtain ⟨⟨result, scope⟩, quiet⟩ := evaluate_endsGood Value.stable_inRange setting depth start node
  exact ⟨result, scope, quiet⟩

/-- A scope with both ends of the range, one of them in an array, and a function that takes the
remainder by `-1`. -/
def edgeScope : Scope where
  values := ⟨[("least", .int (-9223372036854775808)),
    ("grid", .array [.array [.int 9223372036854775807]])]⟩
  functions := ⟨[("f", ⟨["n"], .sequence 1
    [.returns 1 (some (.binary 1 .modulo (.reference 1 "n")
      (.int 1 18446744073709551615)))]⟩)]⟩

/-- `rest := f(least);` -/
def edgeRemainder : Node :=
  .assign 1 "rest" .define (.call 1 "f" [.reference 1 "least"])

theorem evaluate_edgeRemainder_in_range :
    edgeScope.Every Value.InRange ∧
    ((edgeRemainder.evaluate ⟨"<stdin>", 8⟩ 10).outcome { scope := edgeScope }).2.scope.Every
      Value.InRange ∧
    ((edgeRemainder.evaluateWatched Value.InRange (throw .unfinished) ⟨"<stdin>", 8⟩ 10).outcome
      { scope := edgeScope }).2.scope.values.get? "rest" = some (.int 0) := by
  have start : edgeScope.Every Value.InRange := by decide
  obtain ⟨_, after, quiet⟩ := evaluate_stays_in_word_range ⟨"<stdin>", 8⟩ 10 edgeRemainder
    { scope := edgeScope } start
  refine ⟨start, after, ?_⟩
  rw [(quiet (throw .unfinished)).2.1]
  rfl

end Node

end Scriptlet
