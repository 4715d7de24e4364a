import Scriptlet.Proofs.Evaluation.Output
import Scriptlet.Proofs.Script.Read
import Scriptlet.Proofs.Value.Validity

/-!
The output of a run consists of whole records. Each of them holds the text of a value in which
`invalid` does not occur. To print any other value is to stop, and nothing of it is written. The
stop is a fault of rendering, unless the arrays of the value nest deeper than there are levels left.
-/

namespace Scriptlet

structure Record where
  value : Value
  text : String
  valid : value.InvalidFree
  rendered : ∃ levels, value.render levels = .ok text

namespace Record

def line (record : Record) : String :=
  Intrinsic.printedLine record.text

theorem exists_of_output {intrinsic : Intrinsic} {levels : Nat} {values : List Value}
    {line : String} (printed : intrinsic.output levels values = .ok line) :
    ∃ record : Record, record.line = line := by
  cases intrinsic with
  | println =>
      match values with
      | [value] =>
          rw [Intrinsic.output] at printed
          split at printed
          next text rendered =>
            cases printed
            exact ⟨⟨value, text, Value.invalidFree_of_render rendered, levels, rendered⟩, rfl⟩
          next => cases printed
          next => cases printed
      | [] | _ :: _ :: _ => cases printed

end Record

/-- A value in which `invalid` occurs gives no line to print. -/
theorem Intrinsic.output_of_invalid {value : Value} (occurs : ¬ value.InvalidFree) (levels : Nat) :
    println.output levels [value] = .error (.cause .unrenderable) ∨
      levels < value.nesting ∧ println.output levels [value] = .error .tooDeep := by
  have tells := value.render_tells levels
  rcases rendered : value.render levels with obstacle | text
  · rw [rendered] at tells
    cases obstacle with
    | invalid => exact .inl (by rw [output, rendered])
    | tooDeep => exact .inr ⟨tells, by rw [output, rendered]⟩
  · rw [rendered] at tells
    exact absurd tells.1 occurs

namespace Node

variable {setting : Setting} {depth line callLine : Nat} {arguments : List Node} {value : Value}
  {machine reached : Machine}

/-- To print a value in which `invalid` occurs is to stop where its evaluation has led. -/
theorem evaluate_println_of_invalid (occurs : ¬ value.InvalidFree)
    (evaluated : (evaluateAll (evaluate setting depth) arguments).outcome machine =
      (.ok [value], reached)) :
    ∃ stop, ((member line "io" callLine "println" arguments).evaluate setting (depth + 1)).outcome
        machine = (.error stop, reached) ∧
      (value.nesting ≤ depth / 2 →
        stop = .fault ⟨.unrenderable, some line, some setting.file⟩) := by
  have found : Intrinsic.lookup? "io" "println" = some .println := by decide
  rw [evaluate, evaluateLevel, evaluateMember, found]
  dsimp only
  rw [Eval.outcome_bind, evaluated, Eval.andThen]
  rcases Intrinsic.output_of_invalid occurs (depth / 2) with refused | ⟨deep, overflowed⟩
  · rw [refused]
    exact ⟨_, rfl, fun _ => rfl⟩
  · rw [overflowed]
    exact ⟨_, rfl, fun within => absurd deep (Nat.not_lt.mpr within)⟩

end Node

def Value.Obstacle.met? {α : Type} : Except Obstacle α → Option Obstacle
  | .ok _ => none
  | .error obstacle => some obstacle

def Ending.title? {α : Type} (ending : Ending α) : Option String :=
  ending.fault?.map fun fault => fault.cause.title

namespace Script

/-- Every run, however it ends, adds whole records to the output. Rendering refuses a value for
`invalid` only if that occurs in it, and always if its arrays nest within the levels there are;
to print such a value writes nothing. -/
theorem evaluate_prints_whole_records (bounds : Bounds) (file : String) (tree : Node)
    (machine : Machine) :
    (∃ lines, (∀ line ∈ lines, ∃ record : Record, record.line = line) ∧
      (evaluate bounds file tree machine).2.printed = machine.printed ++ String.join lines) ∧
    (∀ (value : Value) (levels : Nat),
      (value.render levels = .error .invalid → ¬ value.InvalidFree) ∧
      (value.nesting ≤ levels → (value.render levels = .error .invalid ↔ ¬ value.InvalidFree))) ∧
    ∀ (depth line callLine : Nat) (arguments : List Node) (value : Value) (reached : Machine),
      ¬ value.InvalidFree →
      (Node.evaluateAll (Node.evaluate ⟨file, bounds.rounds⟩ depth) arguments).outcome machine =
        (.ok [value], reached) →
      ∃ stop, ((Node.member line "io" callLine "println" arguments).evaluate
          ⟨file, bounds.rounds⟩ (depth + 1)).outcome machine = (.error stop, reached) ∧
        (value.nesting ≤ depth / 2 → stop = .fault ⟨.unrenderable, some line, some file⟩) := by
  refine ⟨?_, fun value levels => ?_, fun _ _ _ _ _ _ occurs evaluated => ?_⟩
  · obtain ⟨lines, records, output⟩ := Node.evaluate_adds
      (fun _ _ _ _ printed => Record.exists_of_output printed) ⟨file, bounds.rounds⟩ bounds.limit
      tree machine
    refine ⟨lines, records, ?_⟩
    rw [evaluate, Eval.run_eq_outcome, Machine.printed, output, String.join_append]
    rfl
  · exact ⟨Value.not_invalidFree_of_render, Value.render_eq_invalid_iff⟩
  · exact Node.evaluate_println_of_invalid occurs evaluated

def spoiltMachine : Machine where
  scope := { values := ⟨[("x", .invalid)]⟩ }

/-- `io::println([1, [2]]); io::println([1, [x]]);` on two lines. -/
def spoilt : Node :=
  .sequence 1
    [.expression 1 (.member 1 "io" 1 "println" [.array 1 [.int 1 1, .array 1 [.int 1 2]]]),
      .expression 2 (.member 2 "io" 2 "println" [.array 2 [.int 2 1, .array 2 [.reference 2 "x"]]])]

theorem evaluate_spoilt_prints_whole_records :
    let value := Value.array [.int 1, .array [.invalid]]
    ¬ value.InvalidFree ∧ value.nesting ≤ 8 / 2 ∧
    ((Node.member 2 "io" 2 "println" [.array 2 [.int 2 1, .array 2 [.reference 2 "x"]]]).evaluate
      ⟨"main", 8⟩ 9).outcome spoiltMachine =
        (.error (.fault ⟨.unrenderable, some 2, some "main"⟩), spoiltMachine) ∧
    ∃ lines, (∀ line ∈ lines, ∃ record : Record, record.line = line) ∧
      String.join lines = "dbg out: [1, [2, ], ]\n" := by
  obtain ⟨⟨lines, records, printed⟩, _, silent⟩ :=
    evaluate_prints_whole_records ⟨12, 8⟩ "main" spoilt spoiltMachine
  have occurs : ¬ (Value.array [.int 1, .array [.invalid]]).InvalidFree := by decide
  have within : (Value.array [.int 1, .array [.invalid]]).nesting ≤ 8 / 2 := by decide
  obtain ⟨stop, stopped, isFault⟩ := silent 8 2 2
    [.array 2 [.int 2 1, .array 2 [.reference 2 "x"]]] _ spoiltMachine occurs rfl
  rw [isFault within] at stopped
  have output : (evaluate ⟨12, 8⟩ "main" spoilt spoiltMachine).2.printed =
      "dbg out: [1, [2, ], ]\n" := by decide +kernel
  refine ⟨occurs, within, stopped, lines, records, ?_⟩
  rw [← output, printed]
  exact String.empty_append.symm

/-- A loop that puts what a function without a return gave into arrays, 60 deep, and prints it. -/
def buryingScript : String :=
  "fun f() " ++ block "\n" ++ "\nx := f();\ni := 0;\nwhile (i < 60) " ++
    block "\n  x = [x];\n  i += 1;\n" ++ "\nio::println(x);\n"

/-- Deep enough, a value in which `invalid` occurs is not refused for that. -/
theorem run_buryingScript_overflows :
    let ended := run ⟨100, 100⟩ "deep.oko" buryingScript {}
    ended.1.title? = some "StackOverflowException" ∧
    ∃ value, ended.2.scope.values.get? "x" = some value ∧ ¬ value.InvalidFree ∧
      Value.Obstacle.met? (value.render (100 / 2)) = some .tooDeep := by
  have run_ends : (run ⟨100, 100⟩ "deep.oko" buryingScript {}).1.title? =
        some "StackOverflowException" ∧
      ((run ⟨100, 100⟩ "deep.oko" buryingScript {}).2.scope.values.get? "x").any
        (fun value => decide (¬ value.InvalidFree ∧
          Value.Obstacle.met? (value.render (100 / 2)) = some .tooDeep)) := by
    decide +kernel
  obtain ⟨title, buried⟩ := run_ends
  obtain ⟨value, found, occurs⟩ := (Option.any_eq_true _ _).mp buried
  exact ⟨title, value, found, of_decide_eq_true occurs⟩

end Script

end Scriptlet
