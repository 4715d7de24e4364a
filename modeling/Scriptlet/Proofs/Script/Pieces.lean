import Scriptlet.Proofs.Evaluation.Watch
import Scriptlet.Proofs.Grammar.Seam
import Scriptlet.Proofs.Node.Lines
import Scriptlet.Proofs.Script.Read

/-!
Running a script in pieces. The text of two scripts, joined by a newline, runs as the first of them
and then, unless it failed or returned, the second in the scope that the first leaves. What the
second part says of its lines is all that differs.
-/

namespace Scriptlet

def Ending.unplaced {α : Type} : Ending α → Ending α
  | finished result => .finished result
  | failed fault => .failed { fault with line := none }
  | unfinished => .unfinished

namespace Eval

theorem ending_unplaced_of_moved {α : Type} {place : Nat → Nat} {stop other : Stop}
    (moved : stop.Moved place other) (file : String) :
    (ending file (.error stop : Except Stop α)).unplaced =
      (ending file (.error other : Except Stop α)).unplaced := by
  cases moved <;> rfl

end Eval

namespace Node

def unlessReturned {α : Type} (result : α) (next : Eval α) : Eval α := do
  if (← Eval.scope).returned then pure result else next

theorem evaluateSequence_append (step : Node → Eval Value) (nodes others : List Node)
    (machine : Machine) (running : machine.scope.returned = false) :
    (evaluateSequence step (nodes ++ others)).outcome machine =
      Eval.andThen ((evaluateSequence step nodes).outcome machine) fun _ =>
        unlessReturned () (evaluateSequence step others) := by
  induction nodes generalizing machine with
  | nil =>
      have goesOn : (unlessReturned () (evaluateSequence step others)).outcome machine =
          (evaluateSequence step others).outcome machine := by
        rw [unlessReturned, Eval.outcome_bind, Eval.outcome_scope, Eval.andThen, if_neg]
        simp [running]
      exact goesOn.symm
  | cons node rest ih =>
      rw [List.cons_append, evaluateSequence, evaluateSequence, Eval.outcome_bind,
        Eval.outcome_bind]
      rcases (step node).outcome machine with ⟨stop | value, reached⟩
      · rfl
      · simp only [Eval.andThen, Eval.outcome_bind, Eval.outcome_scope]
        by_cases returned : reached.scope.returned = true
        · simp [returned, unlessReturned, Eval.outcome_bind, Eval.andThen]
        · rw [if_neg returned, if_neg returned, ih reached (by simpa using returned)]
          rfl

theorem evaluate_sequence_append (setting : Setting) (depth line firstLine secondLine : Nat)
    (nodes others : List Node) (machine : Machine) (running : machine.scope.returned = false) :
    ((sequence line (nodes ++ others)).evaluate setting depth).outcome machine =
      Eval.andThen (((sequence firstLine nodes).evaluate setting depth).outcome machine)
        fun value => unlessReturned value ((sequence secondLine others).evaluate setting depth) := by
  cases depth with
  | zero => rfl
  | succ depth =>
      have opened (line : Nat) (nodes : List Node) (machine : Machine) :
          ((sequence line nodes).evaluate setting (depth + 1)).outcome machine =
            Eval.andThen ((evaluateSequence (evaluate setting depth) nodes).outcome machine)
              fun _ => pure .invalid :=
        Eval.outcome_bind _ _ _
      rw [opened, opened, evaluateSequence_append _ _ _ _ running]
      rcases (evaluateSequence (evaluate setting depth) nodes).outcome machine with
        ⟨stop | result, reached⟩
      · rfl
      · simp only [Eval.andThen, unlessReturned, Eval.outcome_bind, Eval.outcome_scope,
          Eval.outcome_pure]
        by_cases returned : reached.scope.returned = true
        · simp [returned]
        · rw [if_neg returned, if_neg returned, opened]
          rfl

end Node

namespace Simulation

def relining (place : Nat → Nat) (printed : Array String) : Simulation where
  change := Node.relined place
  place := place
  printed := printed
  stops := Stop.Moved place

variable {place : Nat → Nat} {printed others : Array String}

theorem relining_lawful (setting : Setting) : (relining place printed).Lawful setting setting where
  stable := Value.stable_true
  rounds := rfl
  overflow := .overflow
  unfinished := .unfinished
  below _ _ _ _ := trivial
  names _ _ _ _ := rfl
  faults node cause _ _ := by
    rcases node.line_rebuilt place (Node.relined place) with same | moved
    · exact .fault (.inl (congrArg some same))
    · exact .fault (.inr (congrArg some moved))

theorem relining_machines {machine other : Machine} :
    (relining place printed).Machines machine other ↔
      other.scope = machine.scope.relined place ∧ machine.output = printed ++ other.output := by
  have scopes := @scopes_iff (relining place printed) machine.scope other.scope fun _ => rfl
  constructor
  · rintro ⟨related, output⟩
    exact ⟨(scopes.mp related).1, output⟩
  · rintro ⟨moved, output⟩
    exact ⟨scopes.mpr ⟨moved, fun _ _ => trivial, machine.scope.every_true⟩, output⟩

/-- Two runs that both have the same run beside them end alike. -/
theorem Ended.alike_of_relining {left right third : Except Stop Value × Machine}
    (leftEnded : (relining place printed).Ended (relining place printed).Values left third)
    (rightEnded : (relining place others).Ended (relining place others).Values right third)
    (file : String) :
    (Eval.ending file left.1).unplaced = (Eval.ending file right.1).unplaced ∧
      left.2.scope.unplaced = right.2.scope.unplaced ∧
      ∃ shared, left.2.output = printed ++ shared ∧ right.2.output = others ++ shared := by
  have machines {left right third : Machine} (first : (relining place printed).Machines left third)
      (second : (relining place others).Machines right third) :
      left.scope.unplaced = right.scope.unplaced ∧
        ∃ shared, left.output = printed ++ shared ∧ right.output = others ++ shared := by
    refine ⟨?_, third.output, first.output, second.output⟩
    rw [← Scope.unplaced_relined place left.scope, ← Scope.unplaced_relined place right.scope,
      ← (relining_machines.mp first).1, ← (relining_machines.mp second).1]
  cases leftEnded with
  | finished leftSame leftReached =>
      cases rightEnded with
      | finished rightSame rightReached =>
          obtain ⟨rfl, _⟩ := leftSame
          obtain ⟨rfl, _⟩ := rightSame
          exact ⟨rfl, machines leftReached rightReached⟩
      | excused impossible => exact impossible.elim
  | stopped leftMoved leftReached =>
      cases rightEnded with
      | stopped rightMoved rightReached =>
          refine ⟨?_, machines leftReached rightReached⟩
          rw [Eval.ending_unplaced_of_moved leftMoved, Eval.ending_unplaced_of_moved rightMoved]
      | excused impossible => exact impossible.elim
  | excused impossible => exact impossible.elim

end Simulation

namespace Node

open Simulation

/-- The journal has no influence on an evaluation. -/
theorem evaluate_beside (node : Node) (setting : Setting) (depth : Nat) {machine other : Machine}
    (scope : other.scope = machine.scope) (output : other.output = machine.output) :
    ((node.evaluate setting depth).outcome other).1 =
        ((node.evaluate setting depth).outcome machine).1 ∧
      ((node.evaluate setting depth).outcome other).2.scope =
        ((node.evaluate setting depth).outcome machine).2.scope ∧
      ((node.evaluate setting depth).outcome other).2.output =
        ((node.evaluate setting depth).outcome machine).2.output :=
  (evaluate_itself Value.stable_true setting depth node machine other
    (itself_machines.mpr ⟨scope, machine.scope.every_true, output⟩)).of_itself

theorem evaluate_relining (place : Nat → Nat) (printed : Array String) (setting : Setting)
    (depth : Nat) (node : Node) :
    (relining place printed).Agree (relining place printed).Values (node.evaluate setting depth)
      ((node.relined place).evaluate setting depth) :=
  evaluate_simulated (relining_lawful setting)
    (fun depth node => congrArg (evaluate setting depth) (relined_eq_rebuilt place node)) depth
    trivial

/-- On other lines, and with something printed before, an evaluation goes the same way. -/
theorem evaluate_relined_alike (place : Nat → Nat) (node : Node) (setting : Setting) (depth : Nat)
    {machine other : Machine} (scope : machine.scope = other.scope) (silent : other.output = #[])
    (file : String) :
    let moved := ((node.relined place).evaluate setting depth).outcome machine
    let ended := (node.evaluate setting depth).outcome other
    (Eval.ending file moved.1).unplaced = (Eval.ending file ended.1).unplaced ∧
      moved.2.scope.unplaced = ended.2.scope.unplaced ∧
      moved.2.output = machine.output ++ ended.2.output := by
  intro moved ended
  -- Both are compared with the run in which everything stands on one line.
  let flat : Nat → Nat := fun _ => 0
  let third : Machine := { scope := other.scope.relined flat }
  have movedEnded := evaluate_relining flat machine.output setting depth (node.relined place)
    machine third (relining_machines.mpr ⟨by rw [scope], Array.append_empty.symm⟩)
  have ended := evaluate_relining flat #[] setting depth node other third
    (relining_machines.mpr ⟨rfl, silent⟩)
  have same : (node.relined place).relined flat = node.relined flat :=
    relined_relined place flat node
  rw [same] at movedEnded
  obtain ⟨endings, scopes, shared, output, others⟩ := movedEnded.alike_of_relining ended file
  rw [Array.empty_append] at others
  exact ⟨endings, scopes, others ▸ output⟩

end Node

/-- How a whole run and the runs of its two parts end. If the first part fails or returns, that is
all there is; otherwise the second part goes on, in the scope that the first one leaves. -/
structure InPieces (whole opening closing : Ending Value × Machine) : Prop where
  stops : (∀ result, opening.1 ≠ .finished result) ∨ opening.2.scope.returned = true →
    whole.1 = opening.1 ∧ whole.2.scope = opening.2.scope ∧ whole.2.output = opening.2.output
  goesOn : ∀ result, opening.1 = .finished result → opening.2.scope.returned = false →
    whole.1.unplaced = closing.1.unplaced ∧
      whole.2.scope.unplaced = closing.2.scope.unplaced ∧
      whole.2.output = opening.2.output ++ closing.2.output

theorem Node.inPieces_sequence_append (setting : Setting) (depth line firstLine secondLine : Nat)
    (nodes others : List Node) (place : Nat → Nat) (file : String) {start machine next : Machine}
    (running : start.scope.returned = false) (startScope : start.scope = machine.scope)
    (startOutput : start.output = machine.output)
    (nextScope : next.scope =
      (Eval.run file ((sequence firstLine nodes).evaluate setting depth) machine).2.scope)
    (silent : next.output = #[]) :
    InPieces
      (Eval.run file ((sequence line (nodes ++ relinedAll place others)).evaluate setting depth)
        start)
      (Eval.run file ((sequence firstLine nodes).evaluate setting depth) machine)
      (Eval.run file ((sequence secondLine others).evaluate setting depth) next) := by
  -- Up to the seam, the whole runs as its first part alone.
  obtain ⟨results, scopes, outputs⟩ :=
    evaluate_beside (sequence firstLine nodes) setting depth startScope startOutput
  simp only [Eval.run_eq_outcome] at nextScope ⊢
  rw [evaluate_sequence_append setting depth line firstLine (place secondLine) _ _ _ running]
  generalize ((sequence firstLine nodes).evaluate setting depth).outcome machine = alone at *
  generalize ((sequence firstLine nodes).evaluate setting depth).outcome start = joined at *
  obtain ⟨_, ended⟩ := alone
  obtain ⟨result, reached⟩ := joined
  dsimp only at results scopes outputs nextScope
  subst results
  cases result with
  | error stop =>
      refine ⟨fun _ => ⟨rfl, scopes, outputs⟩, fun result finished => ?_⟩
      cases stop <;> cases finished
  | ok value =>
      simp only [Eval.andThen, unlessReturned, Eval.outcome_bind, Eval.outcome_scope, scopes]
      by_cases returned : ended.scope.returned = true
      · rw [if_pos returned]
        refine ⟨fun _ => ⟨rfl, scopes, outputs⟩, fun _ _ unreturned => ?_⟩
        rw [returned] at unreturned
        cases unreturned
      · rw [if_neg returned]
        have alike := evaluate_relined_alike place (sequence secondLine others) setting depth
          (scopes.trans nextScope.symm) silent file
        rw [outputs] at alike
        refine ⟨fun stopped => ?_, fun _ _ _ => alike⟩
        rcases stopped with unfinished | hasReturned
        · exact absurd rfl (unfinished value)
        · exact absurd hasReturned returned

namespace Script

variable {limit : Nat} {file : String}

/-- Two texts that can be read can be read joined, unless their nesting reaches the limit. -/
theorem read_newline {first second : String} {program more : Program}
    (firstRead : (read limit file first).1 = .ok program)
    (secondRead : (read limit file second).1 = .ok more)
    (within : ∀ fault, (read limit file (first ++ "\n" ++ second)).1 = .error fault →
      fault.cause ≠ .nestingTooDeep) :
    ∃ whole line firstLine secondLine nodes others place,
      (read limit file (first ++ "\n" ++ second)).1 = .ok whole ∧
      whole.tree = .sequence line (nodes ++ Node.relinedAll place others) ∧
      program.tree = .sequence firstLine nodes ∧ more.tree = .sequence secondLine others := by
  obtain ⟨firstScanned, firstParsed⟩ := scan_of_read firstRead
  obtain ⟨secondScanned, secondParsed⟩ := scan_of_read secondRead
  obtain ⟨nodes, firstTree, firstReading, _⟩ := Node.reading_of_parse firstParsed
  obtain ⟨others, secondTree, secondReading, _⟩ := Node.reading_of_parse secondParsed
  have scanned := Token.scan_newline firstScanned secondScanned
  have reading := firstReading.statements_append
    (secondReading.relined (· + Token.lineFollowing first.toList))
  rw [read_of_scan scanned] at within ⊢
  have parsed := Node.parse_of_reading reading fun fault failed =>
    within fault (by rw [failed]; rfl)
  rw [parsed]
  exact ⟨_, _, _, _, _, _, _, rfl, rfl, firstTree, secondTree⟩

/-- Running two texts joined by a newline is running the one and then the other. -/
theorem run_newline (bounds : Bounds) (file first second : String) (scope : Scope)
    (firstRead : ∃ program, (read bounds.limit file first).1 = .ok program)
    (secondRead : ∃ program, (read bounds.limit file second).1 = .ok program)
    (within : ∀ fault, (read bounds.limit file (first ++ "\n" ++ second)).1 = .error fault →
      fault.cause ≠ .nestingTooDeep)
    (running : scope.returned = false) :
    InPieces (run bounds file (first ++ "\n" ++ second) scope) (run bounds file first scope)
      (run bounds file second (run bounds file first scope).2.scope) := by
  obtain ⟨program, firstRead⟩ := firstRead
  obtain ⟨more, secondRead⟩ := secondRead
  obtain ⟨joined, line, firstLine, secondLine, nodes, others, place, wholeRead, wholeTree,
    firstTree, secondTree⟩ := read_newline firstRead secondRead within
  obtain ⟨start, startScope, startOutput, wholeRun⟩ := run_of_read wholeRead scope
  obtain ⟨machine, machineScope, machineOutput, openingRun⟩ := run_of_read firstRead scope
  obtain ⟨next, nextScope, nextOutput, closingRun⟩ :=
    run_of_read secondRead (run bounds file first scope).2.scope
  rw [wholeTree] at wholeRun
  rw [firstTree] at openingRun
  rw [secondTree] at closingRun
  rw [openingRun] at nextScope
  rw [wholeRun, closingRun, openingRun]
  exact Node.inPieces_sequence_append _ _ line firstLine secondLine nodes others place file
    (startScope ▸ running) (startScope.trans machineScope.symm)
    (startOutput.trans machineOutput.symm) nextScope nextOutput

/-- A conditional without a branch, and a comment that only the seam ends. -/
def conditionalPart : String :=
  "x := 1; if (x) " ++ block " io::println(x); " ++ " // no else"

/-- A function that is called and then a fault, all on the line after the seam. -/
def faultyPart : String :=
  "fun f(a) " ++ block " return a + x; " ++ " y := f(x); io::println(y); y = z;"

theorem run_newline_conditionalPart :
    let whole := run ⟨100, 8⟩ "main" (conditionalPart ++ "\n" ++ faultyPart) {}
    let opening := run ⟨100, 8⟩ "main" conditionalPart {}
    let closing := run ⟨100, 8⟩ "main" faultyPart opening.2.scope
    (∃ program, (read 100 "main" conditionalPart).1 = .ok program) ∧
    (∃ program, (read 100 "main" faultyPart).1 = .ok program) ∧
    InPieces whole opening closing ∧
    (opening.1.fault?.map Fault.message = none ∧ opening.2.output = #["dbg out: 1\n"] ∧
      opening.2.scope.integers = [("x", 1)]) ∧
    (closing.1.fault?.map Fault.message = some "Undefined variable 'z' on line 1 in main" ∧
      closing.2.output = #["dbg out: 2\n"]) ∧
    whole.1.fault?.map Fault.message = some "Undefined variable 'z' on line 2 in main" ∧
    whole.2.output = #["dbg out: 1\n", "dbg out: 2\n"] ∧
    whole.2.scope.integers = [("x", 1), ("y", 2)] ∧
    whole.2.scope.functions.entries.map Prod.fst = ["f"] := by
  intro whole opening closing
  have firstRead : ∃ program, (read 100 "main" conditionalPart).1 = .ok program :=
    exists_program (by decide +kernel)
  have secondRead : ∃ program, (read 100 "main" faultyPart).1 = .ok program :=
    exists_program (by decide +kernel)
  have wholeRead : ∃ program,
      (read 100 "main" (conditionalPart ++ "\n" ++ faultyPart)).1 = .ok program :=
    exists_program (by decide +kernel)
  have pieces : InPieces whole opening closing := by
    refine run_newline ⟨100, 8⟩ "main" conditionalPart faultyPart {} firstRead secondRead
      (fun fault failed => ?_) rfl
    obtain ⟨program, wholeRead⟩ := wholeRead
    cases wholeRead.symm.trans failed
  exact ⟨firstRead, secondRead, pieces, by decide +kernel, by decide +kernel, by decide +kernel⟩

end Script

end Scriptlet
