import Scriptlet.Proofs.Evaluation.Rounds

/-!
The iterations of a for loop. Each of them runs the body from the scope of the loop with nothing but
the element bound anew, whatever the iterations before it have assigned, declared or returned. So a
loop over two arrays one after the other does what the loops over each of them do, up to the first
stop. What evaluating the array itself prints comes before all that.
-/

namespace Scriptlet

structure Printout where
  stop : Option Stop
  lines : Array String

namespace Printout

def followedBy (first second : Printout) : Printout :=
  match first.stop with
  | none => ⟨second.stop, first.lines ++ second.lines⟩
  | some _ => first

theorem followedBy_assoc (first second third : Printout) :
    (first.followedBy second).followedBy third = first.followedBy (second.followedBy third) := by
  obtain ⟨_ | _, lines⟩ := first
  · obtain ⟨_ | _, others⟩ := second
    · simp [followedBy, Array.append_assoc]
    · rfl
  · rfl

def giving {α : Type} (printout : Printout) (result : α) : Except Stop α :=
  match printout.stop with
  | none => .ok result
  | some stop => .error stop

/-- Whether something without a value, which leaves the scope as it was, has come to this after all
that was printed before. -/
structure Ends (printout : Printout) (start : Machine) (ended : Except Stop Value × Machine) :
    Prop where
  result : ended.1 = printout.giving .invalid
  scope : ended.2.scope = start.scope
  output : ended.2.output = start.output ++ printout.lines

end Printout

namespace Node

open Eval Simulation

def printout (setting : Setting) (depth : Nat) (node : Node) (scope : Scope) : Printout :=
  match (node.evaluate setting depth).outcome ⟨scope, #[], #[]⟩ with
  | (.ok _, reached) => ⟨none, reached.output⟩
  | (.error stop, reached) => ⟨some stop, reached.output⟩

/-- The iterations of a for loop over values. Each is a run of the body from the same scope with the
element bound to the value. -/
def iterations (setting : Setting) (depth : Nat) (body : Node) (element : String) (scope : Scope) :
    List Value → Printout
  | [] => ⟨none, #[]⟩
  | value :: rest =>
      (body.printout setting depth (scope.setVariable element value)).followedBy
        (iterations setting depth body element scope rest)

variable (setting : Setting) (depth : Nat)

theorem iterations_append (body : Node) (element : String) (scope : Scope)
    (values others : List Value) :
    iterations setting depth body element scope (values ++ others) =
      (iterations setting depth body element scope values).followedBy
        (iterations setting depth body element scope others) := by
  induction values with
  | nil => simp [iterations, Printout.followedBy]
  | cons value rest ih =>
      rw [List.cons_append, iterations, iterations, ih, Printout.followedBy_assoc]

/-- What was printed before a run, and its journal, make no difference to it. -/
theorem evaluate_after_output (node : Node) (machine : Machine) :
    let blank := (node.evaluate setting depth).outcome ⟨machine.scope, #[], #[]⟩
    let ended := (node.evaluate setting depth).outcome machine
    ended.1 = blank.1 ∧ ended.2.output = machine.output ++ blank.2.output := by
  intro blank ended
  have rebuilds (depth : Nat) (node : Node) : node.evaluate setting depth =
      ((beside machine.output fun _ => False).rebuilt node).evaluate setting depth :=
    congrArg (Node.evaluate setting depth) node.rebuilt_id.symm
  have agree := @evaluate_simulated _ _ _ (beside_lawful setting) rebuilds depth node trivial
  have related := agree machine ⟨machine.scope, #[], #[]⟩
    (beside_machines.mpr ⟨rfl, Array.append_empty.symm⟩)
  obtain ⟨results, machines⟩ := related.same (fun _ _ same => same.symm) fun _ impossible =>
    impossible
  exact ⟨results.symm, (beside_machines.mp machines).2⟩

theorem evaluate_inFrame (node : Node) (frame : Scope) (machine : Machine) :
    ∃ left events, (inFrame frame (node.evaluate setting depth)).outcome machine =
      ((node.printout setting depth frame).giving left,
      ⟨machine.scope, machine.output ++ (node.printout setting depth frame).lines, events⟩) := by
  obtain ⟨same, printed⟩ := evaluate_after_output setting depth node { machine with scope := frame }
  rw [outcome_inFrame, printout]
  dsimp only at same printed
  generalize (node.evaluate setting depth).outcome { machine with scope := frame } = ended
    at same printed
  generalize (node.evaluate setting depth).outcome ⟨frame, #[], #[]⟩ = blank at same printed
  obtain ⟨result, after⟩ := ended
  obtain ⟨_ | _, reached⟩ := blank
  · cases same
    exact ⟨frame, after.events, by rw [← printed]; rfl⟩
  · cases same
    exact ⟨after.scope, after.events, by rw [← printed]; rfl⟩

theorem evaluateFor_ends (body : Node) (element : String) (values : List Value)
    (machine : Machine) :
    (iterations setting depth body element machine.scope values).Ends machine
      ((evaluateFor element (body.evaluate setting depth) values >>= fun _ =>
        pure .invalid).outcome machine) := by
  induction values generalizing machine with
  | nil => exact ⟨rfl, rfl, Array.append_empty.symm⟩
  | cons value rest ih =>
      obtain ⟨left, events, iterated⟩ := evaluate_inFrame setting depth body
        (machine.scope.setVariable element value) machine
      rw [iterations, evaluateFor, bind_assoc, outcome_bind, outcome_scope, andThen, bind_assoc,
        outcome_bind, iterated]
      obtain ⟨_ | stop, lines⟩ :=
        body.printout setting depth (machine.scope.setVariable element value)
      · have ends := ih ⟨machine.scope, machine.output ++ lines, events⟩
        exact ⟨ends.result, ends.scope, ends.output.trans (Array.append_assoc ..)⟩
      · exact ⟨rfl, rfl, rfl⟩

theorem evaluate_forLoop_ends {line : Nat} {element : String} {elements body : Node}
    {values : List Value} {machine reached : Machine}
    (evaluated : (elements.evaluate setting depth).outcome machine =
      (.ok (.array values), reached)) :
    (iterations setting depth body element reached.scope values).Ends reached
      (((forLoop line element elements body).evaluate setting (depth + 1)).outcome machine) := by
  rw [evaluate, evaluateLevel, outcome_bind, evaluated]
  exact evaluateFor_ends setting depth body element values reached

theorem evaluate_forLoop_ends_of_expressions {line : Nat} {element : String} {elements : Node}
    (expressions : elements.OfExpressions) (body : Node) {values : List Value}
    {machine reached : Machine}
    (evaluated : (elements.evaluate setting depth).outcome machine =
      (.ok (.array values), reached)) :
    let ended := ((forLoop line element elements body).evaluate setting (depth + 1)).outcome machine
    (iterations setting depth body element machine.scope values).Ends
      { reached with scope := machine.scope } ended := by
  -- An expression leaves the scope as it was, and the iterations start from what it leaves.
  have kept := expressions.evaluate_keeps setting depth machine
  rw [evaluated] at kept
  rw [kept]
  exact evaluate_forLoop_ends setting depth evaluated

/-- Loops over two arrays and over the array joined from them, which are the values of three
expressions in one scope. Once its array is evaluated, each loop does what its iterations do, each
of which is a run of the body from that scope with the element bound, and leaves the scope as it
was. For the joined array these are the iterations of the first loop and then, unless that stopped,
those of the second; so it stops as the first that stops. -/
theorem evaluate_forLoop_append (line : Nat) (element : String) (body first second joined : Node)
    (firstExpressions : first.OfExpressions) (secondExpressions : second.OfExpressions)
    (joinedExpressions : joined.OfExpressions) (values others : List Value)
    (machine afterFirst afterSecond afterJoined : Machine)
    (firstEvaluated : (first.evaluate setting depth).outcome machine =
      (.ok (.array values), afterFirst))
    (secondEvaluated : (second.evaluate setting depth).outcome machine =
      (.ok (.array others), afterSecond))
    (joinedEvaluated : (joined.evaluate setting depth).outcome machine =
      (.ok (.array (values ++ others)), afterJoined)) :
    let loop (elements : Node) :=
      ((forLoop line element elements body).evaluate setting (depth + 1)).outcome machine
    let iterated := iterations setting depth body element machine.scope
    (iterated values).Ends { afterFirst with scope := machine.scope } (loop first) ∧
    (iterated others).Ends { afterSecond with scope := machine.scope } (loop second) ∧
    ((iterated values).followedBy (iterated others)).Ends
      { afterJoined with scope := machine.scope } (loop joined) ∧
    (loop joined).1 = (loop first).1.bind fun _ => (loop second).1 := by
  intro loop iterated
  have firstEnds : (iterated values).Ends _ (loop first) :=
    evaluate_forLoop_ends_of_expressions setting depth firstExpressions body firstEvaluated
  have secondEnds : (iterated others).Ends _ (loop second) :=
    evaluate_forLoop_ends_of_expressions setting depth secondExpressions body secondEvaluated
  have joinedEnds : (iterated (values ++ others)).Ends _ (loop joined) :=
    evaluate_forLoop_ends_of_expressions setting depth joinedExpressions body joinedEvaluated
  have appended : iterated (values ++ others) =
      (iterated values).followedBy (iterated others) := iterations_append ..
  rw [appended] at joinedEnds
  refine ⟨firstEnds, secondEnds, joinedEnds, ?_⟩
  rw [joinedEnds.result, firstEnds.result, secondEnds.result]
  obtain ⟨_ | _, lines⟩ := iterated values <;> rfl

/-- After `fun g() { io::println(9); return [1, 2]; }` -/
def announcing : Machine :=
  ⟨({} : Scope).setFunction "g" ⟨[], .sequence 1
    [.expression 1 (.member 1 "io" 1 "println" [.int 1 9]),
      .returns 1 (some (.array 1 [.int 1 1, .int 1 2]))]⟩, #[], #[]⟩

/-- `{ io::println(e); }` -/
def printElement : Node :=
  .sequence 1 [.expression 1 (.member 1 "io" 1 "println" [.reference 1 "e"])]

theorem evaluate_forLoop_append_announcing :
    ∃ reached, ((call 1 "g" []).evaluate ⟨"main", 0⟩ 9).outcome announcing =
        (.ok (.array [.int 1, .int 2]), reached) ∧
      (((forLoop 1 "e" (.call 1 "g" []) printElement).evaluate ⟨"main", 0⟩ 10).outcome
        announcing).2.output = reached.output ++ (#["dbg out: 1\n"] ++ #["dbg out: 2\n"]) := by
  have expressions {value : Int} : (array 1 [.int 1 value]).OfExpressions := by
    refine WellFormed.ofExpressions (.array fun element member => ?_)
    rw [List.mem_singleton.mp member]
    exact .int
  have called : (call 1 "g" []).OfExpressions :=
    WellFormed.ofExpressions (.call fun _ member => absurd member List.not_mem_nil)
  obtain ⟨_, _, joinedEnds, _⟩ := evaluate_forLoop_append ⟨"main", 0⟩ 9 1 "e"
    printElement (.array 1 [.int 1 1]) (.array 1 [.int 1 2]) (.call 1 "g" []) expressions
    expressions called [.int 1] [.int 2] announcing _ _ _ rfl rfl rfl
  refine ⟨_, rfl, joinedEnds.output.trans (congrArg _ ?_)⟩
  decide +kernel

/-- What evaluating the array prints is not part of what the loops over the two halves print. -/
theorem forLoop_over_call_announces :
    let loop (elements : Node) :=
      ((forLoop 1 "e" elements printElement).evaluate ⟨"main", 0⟩ 10).outcome announcing
    (((array 1 [.int 1 1]).evaluate ⟨"main", 0⟩ 9).outcome announcing).1 =
        .ok (.array [.int 1]) ∧
      (((array 1 [.int 1 2]).evaluate ⟨"main", 0⟩ 9).outcome announcing).1 =
        .ok (.array [.int 2]) ∧
      (((call 1 "g" []).evaluate ⟨"main", 0⟩ 9).outcome announcing).1 =
        .ok (.array ([.int 1] ++ [.int 2])) ∧
      (loop (.call 1 "g" [])).2.output ≠
        (loop (.array 1 [.int 1 1])).2.output ++ (loop (.array 1 [.int 1 2])).2.output :=
  ⟨rfl, rfl, rfl, by decide +kernel⟩

end Node

end Scriptlet
