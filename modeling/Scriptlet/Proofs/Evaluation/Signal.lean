import Scriptlet.Proofs.Evaluation.Visit
import Scriptlet.Proofs.Scope

/-!
The return signal of a frame. An evaluation binds names and makes returns but takes neither back,
and as long as it has not returned the value to return is the old one. A value that a call yields
is thus one that a return statement has evaluated in the frame of the call itself.
-/

namespace Scriptlet

namespace Scope

/-- Whether a scope has all names of an earlier one bound and its return still made, with the same
value to return as long as there is no return. -/
structure Grows (before after : Scope) : Prop where
  values : ∀ name, before.values.contains name = true → after.values.contains name = true
  functions : ∀ name, before.functions.contains name = true → after.functions.contains name = true
  returned : before.returned = true → after.returned = true
  returnValue : after.returned = false → after.returnValue = before.returnValue

theorem Grows.running {before after : Scope} (grows : before.Grows after)
    (running : after.returned = false) : before.returned = false := by
  cases made : before.returned with
  | false => rfl
  | true =>
      rw [grows.returned made] at running
      cases running

theorem Grows.trans {before middle after : Scope} (head : before.Grows middle)
    (tail : middle.Grows after) : before.Grows after where
  values name bound := tail.values name (head.values name bound)
  functions name bound := tail.functions name (head.functions name bound)
  returned made := tail.returned (head.returned made)
  returnValue running := by
    rw [tail.returnValue running, head.returnValue (tail.running running)]

instance : IsPreorder Scope Grows where
  refl _ := ⟨fun _ bound => bound, fun _ bound => bound, fun made => made, fun _ => rfl⟩
  trans _ _ _ := Grows.trans

def Coherent (scope : Scope) : Prop :=
  scope.returned = false → scope.returnValue = .invalid

theorem Grows.coherent {before after : Scope} (grows : before.Grows after)
    (coherent : before.Coherent) : after.Coherent := by
  intro running
  rw [grows.returnValue running]
  exact coherent (grows.running running)

theorem callFrame_coherent (scope : Scope) (callee : Function) (values : List Value) :
    (scope.callFrame callee values).Coherent :=
  fun _ => returnValue_setVariables _ _ _

end Scope

namespace Node

open Eval

theorem Updates.grows {node : Node} {before after : Scope} (updates : node.Updates before after) :
    before.Grows after := by
  cases updates with
  | assign =>
      exact ⟨fun name => Bindings.contains_insert_of_contains,
        fun _ bound => bound, fun made => made, fun _ => rfl⟩
  | returnNothing | returnValue =>
      exact ⟨fun _ bound => bound, fun _ bound => bound, fun _ => rfl,
        fun running => by cases running⟩
  | function =>
      exact ⟨fun _ bound => bound, fun name => Bindings.contains_insert_of_contains,
        fun made => made, fun _ => rfl⟩

theorem evaluate_keeps_grows (setting : Setting) (depth : Nat) (node : Node) :
    (node.evaluate setting depth).Keeps Scope.Grows := by
  induction depth generalizing node with
  | zero => exact keeps_throw _
  | succ depth ih => exact evaluateLevel_keeps (fun child _ => ih child) fun _ _ => Updates.grows

end Node

namespace Visit

variable {setting : Setting} {root visit part body : Visit}

theorem grows (setting : Setting) (visit : Visit) :
    visit.machine.scope.Grows (visit.outcome setting).2.scope :=
  visit.node.evaluate_keeps_grows setting visit.depth visit.machine

theorem Enters.grows (enters : visit.Enters setting part) :
    visit.machine.scope.Grows part.machine.scope :=
  enters.2.keeps fun node => node.evaluate_keeps_grows setting part.depth

theorem Opens.coherent (opens : visit.Opens setting body)
    (coherent : visit.machine.scope.Coherent) : body.machine.scope.Coherent := by
  obtain ⟨depth, node, machine⟩ := visit
  obtain ⟨below, bodyNode, entered⟩ := body
  obtain ⟨_, opens⟩ := opens
  cases opens with
  | call => exact Scope.callFrame_coherent _ _ _
  | @pass _ _ elements _ _ _ _ _ ended pass =>
      obtain ⟨value, _, same⟩ := pass.scope_eq
      have grows := elements.evaluate_keeps_grows setting below machine
      rw [ended] at grows
      rw [same]
      exact grows.coherent coherent

theorem Includes.coherent (includes : root.Includes setting visit)
    (coherent : root.machine.scope.Coherent) : visit.machine.scope.Coherent := by
  induction includes with
  | refl => exact coherent
  | tail _ next ih =>
      rcases next with enters | opens
      · exact enters.grows.coherent ih
      · exact opens.coherent ih

/-- `Returns setting visit value`: the visit is one of a return statement that has evaluated its
expression to the value. -/
inductive Returns (setting : Setting) : Visit → Value → Prop
  | evaluated {depth line : Nat} {expression : Node} {value : Value} {machine reached : Machine} :
      (expression.evaluate setting depth).outcome machine = (.ok value, reached) →
      Returns setting ⟨depth + 1, .returns line (some expression), machine⟩ value

def Given (setting : Setting) (visit : Visit) (value : Value) : Prop :=
  ∃ part, visit.SharesFrame setting part ∧ part.Returns setting value

theorem Given.of_enters {value : Value} (given : part.Given setting value)
    (enters : visit.Enters setting part) : visit.Given setting value := by
  obtain ⟨last, shares, returns⟩ := given
  exact ⟨last, .head enters shares, returns⟩

def Passes (setting : Setting) (visit : Visit) (machine after : Machine) : Prop :=
  after.scope.returnValue = machine.scope.returnValue ∨ visit.Given setting after.scope.returnValue

theorem progression_passes (setting : Setting) (visit : Visit) :
    Progression (visit.Passes setting) fun _ _ => True where
  refl _ := .inl rfl
  trans _ _ _ head tail := by
    rcases tail with same | given
    · unfold Passes
      rw [same]
      exact head
    · exact .inr given
  note _ _ := .inl rfl
  print _ _ _ _ _ _ := .inl rfl
  frame _ _ _ _ := .inl rfl

theorem passes (setting : Setting) (visit : Visit) :
    visit.Passes setting visit.machine (visit.outcome setting).2 := by
  obtain ⟨depth, node, machine⟩ := visit
  induction depth generalizing node machine with
  | zero => exact .inl rfl
  | succ depth ih =>
      have progression := progression_passes setting ⟨depth + 1, node, machine⟩
      have enters (part : Node) (entered : Machine) (enters : Node.Enters setting.rounds
          (Node.evaluate setting depth) node machine part entered) :
          Passes setting ⟨depth + 1, node, machine⟩ entered
            ((part.evaluate setting depth).outcome entered).2 := by
        rcases ih part entered with same | given
        · exact .inl same
        · exact .inr (given.of_enters ⟨rfl, enters⟩)
      by_cases giving : ∃ line expression, node = .returns line (some expression)
      · -- The value is the one of the expression, unless that has stopped.
        obtain ⟨line, expression, rfl⟩ := giving
        have before := enters expression machine (.operand .first)
        unfold outcome Node.evaluate Node.evaluateLevel
        rw [Eval.outcome_bind]
        rcases ended : (expression.evaluate setting depth).outcome machine with ⟨_ | value, reached⟩
        · rw [ended] at before
          exact before
        · exact .inr ⟨_, .refl, .evaluated ended⟩
      · have meets := @Node.evaluateLevel_meets _ _ (fun _ => True) progression setting
          (Node.evaluate setting depth) machine (fun _ => trivial) depth node trivial
          (fun _ => trivial) (fun part entered entering =>
            ⟨enters part entered entering, fun _ _ => trivial⟩)
          (fun _ _ _ => ⟨trivial, fun _ _ => trivial⟩) fun before scope updates => by
            cases updates with
            | assign => exact .inl rfl
            | returnNothing => exact .inl rfl
            | @returnValue line expression => exact absurd ⟨line, expression, rfl⟩ giving
            | function => exact .inl rfl
        exact meets.reaches

/-- A call that yields a value has run its callee in a fresh frame, and yields what that is left
to return. -/
theorem opens_of_call {depth line : Nat} {name : String} {arguments : List Node} {value : Value}
    {machine reached : Machine}
    (ended : outcome setting ⟨depth, .call line name arguments, machine⟩ = (.ok value, reached)) :
    ∃ body, Opens setting ⟨depth, .call line name arguments, machine⟩ body ∧
      body.machine.scope.returnValue = .invalid ∧
      (body.outcome setting).2.scope.returnValue = value := by
  cases depth with
  | zero => cases ended
  | succ depth =>
      unfold outcome Node.evaluate Node.evaluateLevel Node.evaluateCall at ended
      rw [Eval.outcome_bind] at ended
      rcases evaluated : (Node.evaluateAll (Node.evaluate setting depth) arguments).outcome machine
        with ⟨stop | values, middle⟩
      · rw [evaluated] at ended
        cases ended
      · rw [evaluated, Eval.andThen, Eval.outcome_bind, Eval.outcome_scope, Eval.andThen] at ended
        cases found : middle.scope.functions.get? name with
        | none =>
            rw [found] at ended
            cases ended
        | some callee =>
            rw [found] at ended
            have opens : Opens setting ⟨depth + 1, .call line name arguments, machine⟩
                ⟨depth, callee.body, middle.scope.callFrame callee values, middle.output,
                  middle.events.push (.call name values.length line)⟩ :=
              ⟨rfl, .call evaluated found⟩
            refine ⟨_, opens, Scope.returnValue_setVariables _ _ _, ?_⟩
            simp only [Eval.outcome_bind, Eval.outcome_note, Eval.andThen,
              Eval.outcome_inFrame] at ended
            unfold outcome
            rcases ran : (callee.body.evaluate setting depth).outcome
              ⟨middle.scope.callFrame callee values, middle.output,
                middle.events.push (.call name values.length line)⟩ with ⟨stop | result, last⟩
            · rw [ran] at ended
              cases ended
            · rw [ran] at ended
              cases ended
              rfl

end Visit

/-- The return signal, over every evaluation. Names stay bound, a return stays made, and without a
return the value to return stays; from an empty scope, no visit of a frame that has not returned
finds anything to return there, or leaves it; and what a call yields is invalid, or it was evaluated
by a return statement in the frame of the call. -/
theorem Node.evaluate_signals_returns (setting : Setting) (depth : Nat) (node : Node)
    (machine : Machine) :
    machine.scope.Grows ((node.evaluate setting depth).outcome machine).2.scope ∧
    (machine.scope = {} → ∀ visit, Visit.Includes setting ⟨depth, node, machine⟩ visit →
      visit.machine.scope.Coherent ∧ (visit.outcome setting).2.scope.Coherent) ∧
    ∀ line name arguments value reached, node = .call line name arguments →
      (node.evaluate setting depth).outcome machine = (.ok value, reached) →
      value = .invalid ∨
        ∃ body, Visit.Opens setting ⟨depth, node, machine⟩ body ∧ body.Given setting value := by
  refine ⟨node.evaluate_keeps_grows setting depth machine, ?_, ?_⟩
  · intro fresh visit includes
    have coherent : visit.machine.scope.Coherent := by
      refine includes.coherent ?_
      rw [fresh]
      exact fun _ => rfl
    exact ⟨coherent, (visit.grows setting).coherent coherent⟩
  · rintro line name arguments value reached rfl ended
    obtain ⟨body, opens, nothing, rfl⟩ := Visit.opens_of_call ended
    rcases body.passes setting with same | given
    · exact .inl (same.trans nothing)
    · exact .inr ⟨body, opens, given⟩

/-- `fun f(x) { for (e) ([1]) { return e; } return x; }`: the return inside the loop ends only the
iteration. -/
def Function.returningTwice : Function :=
  ⟨["x"], .sequence 1
    [.forLoop 1 "e" (.array 1 [.int 1 1]) (.sequence 1 [.returns 1 (some (.reference 1 "e"))]),
      .returns 1 (some (.reference 1 "x"))]⟩

theorem Node.call_returningTwice_yields_argument :
    ∃ machine : Machine, machine.scope.functions.get? "f" = some Function.returningTwice ∧
    ∃ reached, ((Node.call 1 "f" [.int 1 7]).evaluate ⟨"<stdin>", 0⟩ 6).outcome machine =
      (.ok (.int 7), reached) ∧
    ∃ body, Visit.Opens ⟨"<stdin>", 0⟩ ⟨6, .call 1 "f" [.int 1 7], machine⟩ body ∧
      body.Given ⟨"<stdin>", 0⟩ (.int 7) := by
  have ended : ((Node.call 1 "f" [.int 1 7]).evaluate ⟨"<stdin>", 0⟩ 6).outcome
      { scope := ({} : Scope).setFunction "f" Function.returningTwice } = (.ok (.int 7), _) := rfl
  refine ⟨_, rfl, _, ended, ?_⟩
  obtain ⟨_, _, call⟩ := Node.evaluate_signals_returns ⟨"<stdin>", 0⟩ 6 (.call 1 "f" [.int 1 7])
    { scope := ({} : Scope).setFunction "f" Function.returningTwice }
  rcases call 1 "f" [.int 1 7] _ _ rfl ended with invalid | given
  · cases invalid
  · exact given

end Scriptlet
