import Scriptlet.Proofs.Evaluation.Simulation
import Scriptlet.Proofs.Grammar.Alike
import Scriptlet.Proofs.Grammar.Program
import Scriptlet.Proofs.Node.Lines
import Scriptlet.Script

/-!
Lines and file names decide nothing but where a fault is said to be. Token lists that differ in
lines are parsed alike, and trees that differ in lines run alike, whatever the files are called.
-/

namespace Scriptlet

namespace Fault

def place (fault : Fault) : String :=
  (match fault.line with
    | some line => " on line " ++ toString line
    | none => "") ++
  (match fault.file with
    | some file => " in " ++ file
    | none => "")

theorem message_eq (fault : Fault) : fault.message = fault.cause.message ++ fault.place :=
  String.append_assoc

def Alike (fault other : Fault) : Prop :=
  fault.cause.title = other.cause.title ∧
    ∃ words, fault.message = words ++ fault.place ∧ other.message = words ++ other.place

theorem alike_of_cause {fault other : Fault} (causes : fault.cause.Alike other.cause) :
    fault.Alike other := by
  refine ⟨causes.1, fault.cause.message, fault.message_eq, ?_⟩
  rw [causes.2]
  exact other.message_eq

end Fault

namespace Node

open Grammar

inductive ParsedAlike : Except Fault Node → Except Fault Node → Prop
  | accepted {tree twin : Node} (alike : tree.Alike twin) (treeFree : tree.BareFree)
      (twinFree : twin.BareFree) : ParsedAlike (.ok tree) (.ok twin)
  | refused {fault twin : Fault} (title : fault.cause.title = "ParseException")
      (alike : fault.Alike twin) : ParsedAlike (.error fault) (.error twin)

theorem title_of_parse {limit : Nat} {tokens : List Token} {file : Option String} {fault : Fault}
    (failed : (Node.parse limit tokens file).1 = .error fault) :
    fault.cause.title = "ParseException" := by
  rcases fault_of_parse failed with syntactic | deep
  · exact Cause.title_of_syntactic syntactic
  · rw [deep]
    rfl

theorem parse_alike (limit : Nat) {tokens twins : List Token}
    (alike : List.Forall₂ Token.Alike tokens twins) (file other : Option String) :
    ParsedAlike (Node.parse limit tokens file).1 (Node.parse limit twins other).1 := by
  have ended := program_alike (depthOf limit) (initial tokens file) (initial twins other) alike
  have refused := @title_of_parse limit tokens file
  have free := @bareFree_of_parse limit tokens file
  have twinFree := @bareFree_of_parse limit twins other
  rw [parse_eq_outcome] at refused free twinFree
  rw [parse_eq_outcome, parse_eq_outcome]
  generalize (program (depthOf limit)).outcome (initial tokens file) = left at *
  generalize (program (depthOf limit)).outcome (initial twins other) = right at *
  cases ended with
  | yields trees _ => exact .accepted trees (free rfl) (twinFree rfl)
  | halts halted =>
      cases halted with
      | fault causes => exact .refused (refused rfl) (Fault.alike_of_cause causes)
      | tooDeep => exact .refused (refused rfl) (Fault.alike_of_cause (Cause.alike_refl _))

end Node

inductive Stop.SameCause : Stop → Stop → Prop
  | fault {fault other : Fault} :
      fault.cause = other.cause → SameCause (.fault fault) (.fault other)
  | overflow : SameCause .overflow .overflow
  | unfinished : SameCause .unfinished .unfinished

inductive Ending.Alike {α : Type} : Ending α → Ending α → Prop
  | finished (result : α) : Alike (.finished result) (.finished result)
  | failed {fault other : Fault} : fault.Alike other → Alike (.failed fault) (.failed other)
  | unfinished : Alike .unfinished .unfinished

theorem Eval.ending_alike {α : Type} {stop other third : Stop} (first : stop.SameCause third)
    (second : other.SameCause third) (file otherFile : String) :
    (Eval.ending file (.error stop : Except Stop α)).Alike
      (Eval.ending otherFile (.error other)) := by
  cases first with
  | fault same =>
      cases second with
      | fault also =>
          refine .failed (Fault.alike_of_cause ?_)
          rw [same, also]
          exact Cause.alike_refl _
  | overflow =>
      cases second
      exact .failed (Fault.alike_of_cause (Cause.alike_refl _))
  | unfinished =>
      cases second
      exact .unfinished

namespace Scope

def Alike (scope other : Scope) : Prop :=
  scope.unplaced = other.unplaced

def BareFree (scope : Scope) : Prop :=
  ∀ entry ∈ scope.functions.entries, entry.2.body.BareFree

end Scope

namespace Simulation

def flattening : Simulation where
  change := Node.relined fun _ => 0
  place _ := 0
  kept := Node.BareFree
  stops := Stop.SameCause

theorem flattening_lawful {setting second : Setting} (rounds : second.rounds = setting.rounds) :
    flattening.Lawful setting second where
  stable := Value.stable_true
  rounds := rounds
  overflow := .overflow
  unfinished := .unfinished
  below _ free _ := free.below
  names _ _ _ _ := rfl
  faults _ _ _ _ := .fault rfl

theorem flattening_scopes {scope other : Scope} :
    flattening.Scopes scope other ↔ other = scope.relined (fun _ => 0) ∧ scope.BareFree := by
  rw [scopes_iff fun _ => rfl]
  constructor
  · rintro ⟨moved, free, _⟩
    exact ⟨moved, free⟩
  · rintro ⟨moved, free⟩
    exact ⟨moved, free, scope.every_true⟩

variable {left right third : Except Stop Value × Machine}

/-- Two runs that both have the same run on line zero beside them end alike. -/
theorem Ended.alike (leftEnded : flattening.Ended flattening.Values left third)
    (rightEnded : flattening.Ended flattening.Values right third) (file otherFile : String) :
    (Eval.ending file left.1).Alike (Eval.ending otherFile right.1) ∧
      left.2.output = right.2.output ∧ left.2.scope.Alike right.2.scope ∧
      left.2.scope.BareFree ∧ right.2.scope.BareFree := by
  have machines {left right third : Machine} (first : flattening.Machines left third)
      (second : flattening.Machines right third) :
      left.output = right.output ∧ left.scope.Alike right.scope ∧
        left.scope.BareFree ∧ right.scope.BareFree := by
    obtain ⟨leftMoved, leftFree⟩ := flattening_scopes.mp first.scopes
    obtain ⟨rightMoved, rightFree⟩ := flattening_scopes.mp second.scopes
    refine ⟨first.output.trans second.output.symm, ?_, leftFree, rightFree⟩
    unfold Scope.Alike
    rw [← Scope.relined_eq_unplaced leftFree, ← Scope.relined_eq_unplaced rightFree, ← leftMoved,
      ← rightMoved]
  cases leftEnded with
  | finished values reached =>
      cases rightEnded with
      | finished others beside =>
          obtain ⟨rfl, _⟩ := values
          obtain ⟨rfl, _⟩ := others
          exact ⟨.finished _, machines reached beside⟩
      | excused impossible => exact impossible.elim
  | stopped stops reached =>
      cases rightEnded with
      | stopped others beside =>
          exact ⟨Eval.ending_alike stops others file otherFile, machines reached beside⟩
      | excused impossible => exact impossible.elim
  | excused impossible => exact impossible.elim

end Simulation

open Node Simulation in
/-- Token lists that differ only in lines give trees that differ only in lines, or faults that
differ only in places, whatever the files. Trees and scopes that differ only in lines run alike,
whatever the files: with the same output, to the same value or to faults that differ only in
places, and leave scopes that differ only in lines again. -/
theorem Script.parse_and_evaluate_alike (bounds : Bounds) (file otherFile : String) :
    (∀ tokens twins : List Token, List.Forall₂ Token.Alike tokens twins →
      ∀ name twinName : Option String, ParsedAlike (Node.parse bounds.limit tokens name).1
        (Node.parse bounds.limit twins twinName).1) ∧
    ∀ (tree twin : Node) (scope twinScope : Scope), tree.BareFree → twin.BareFree →
      tree.Alike twin → scope.BareFree → twinScope.BareFree → scope.Alike twinScope →
        let run := evaluate bounds file tree { scope := scope }
        let beside := evaluate bounds otherFile twin { scope := twinScope }
        run.1.Alike beside.1 ∧ run.2.output = beside.2.output ∧
          run.2.scope.Alike beside.2.scope ∧ run.2.scope.BareFree ∧ beside.2.scope.BareFree := by
  refine ⟨fun tokens twins alike => parse_alike bounds.limit alike, ?_⟩
  intro tree twin scope twinScope treeFree twinFree trees scopeFree twinScopeFree scopes run beside
  have agree (file : String) {node : Node} (free : node.BareFree) :=
    evaluate_simulated (@flattening_lawful ⟨file, bounds.rounds⟩ ⟨"", bounds.rounds⟩ rfl)
      (fun depth node => congrArg (Node.evaluate _ depth) (relined_eq_rebuilt _ node)) bounds.limit free
  -- Both runs are compared with the run of the one tree that both become on line zero.
  have sameTree : twin.relined (fun _ => 0) = tree.relined fun _ => 0 := by
    rw [relined_eq_unplaced _ twinFree, relined_eq_unplaced _ treeFree, trees]
  have sameScope : twinScope.relined (fun _ => 0) = scope.relined fun _ => 0 := by
    rw [Scope.relined_eq_unplaced twinScopeFree, Scope.relined_eq_unplaced scopeFree, scopes]
  let third : Machine := { scope := scope.relined fun _ => 0 }
  have ended := agree file treeFree { scope := scope } third
    ⟨flattening_scopes.mpr ⟨rfl, scopeFree⟩, rfl⟩
  have twinEnded := agree otherFile twinFree { scope := twinScope } third
    ⟨flattening_scopes.mpr ⟨sameScope.symm, twinScopeFree⟩, rfl⟩
  have moved : flattening.change twin = flattening.change tree := sameTree
  rw [moved] at twinEnded
  simp only [run, beside, evaluate, Eval.run_eq_outcome]
  exact ended.alike twinEnded file otherFile

namespace Script

/-- The tokens of `f(0);` on one line. -/
def quotientCall (line : Nat) : List Token :=
  [⟨.identifier, some (.text "f"), line⟩, ⟨.openParen, none, line⟩,
    ⟨.integer, some (.integer 0), line⟩, ⟨.closeParen, none, line⟩, ⟨.semicolon, none, line⟩]

/-- The tokens of `return 1 / a;` on one line. -/
def quotientReturn (line : Nat) : List Token :=
  [⟨.keyword, some (.text "return"), line⟩, ⟨.integer, some (.integer 1), line⟩,
    ⟨.operator, some (.text "/"), line⟩, ⟨.identifier, some (.text "a"), line⟩,
    ⟨.semicolon, none, line⟩]

def quotientTree (line : Nat) : Node :=
  .sequence line [.expression line (.call line "f" [.int line 0])]

def quotientBody (line : Nat) : Node :=
  .sequence line
    [.returns line (some (.binary line .divide (.int line 1) (.reference line "a")))]

def quotientScope (line : Nat) : Scope where
  functions := ⟨[("f", ⟨["a"], quotientBody line⟩)]⟩

theorem bareFree_quotientTree (line : Nat) : (quotientTree line).BareFree :=
  Node.bareFree_of_parse
    (show (Node.parse 100 (quotientCall line) none).1 = .ok (quotientTree line) from rfl)

theorem bareFree_quotientScope (line : Nat) : (quotientScope line).BareFree := by
  intro entry member
  cases List.mem_singleton.mp member
  exact Node.bareFree_of_parse
    (show (Node.parse 100 (quotientReturn line) none).1 = .ok (quotientBody line) from rfl)

theorem parse_and_evaluate_quotient_alike :
    List.Forall₂ Token.Alike (quotientCall 1) (quotientCall 9) ∧
    Node.ParsedAlike (Node.parse 100 (quotientCall 1) none).1
      (Node.parse 100 (quotientCall 9) (some "main")).1 ∧
    (quotientTree 1).BareFree ∧ (quotientTree 9).BareFree ∧
    (quotientTree 1).Alike (quotientTree 9) ∧
    (quotientScope 3).BareFree ∧ (quotientScope 5).BareFree ∧
    (quotientScope 3).Alike (quotientScope 5) ∧
    (evaluate ⟨100, 8⟩ "main" (quotientTree 1) { scope := quotientScope 3 }).1 =
      .failed ⟨.divisionByZero .divide, some 3, some "main"⟩ ∧
    (evaluate ⟨100, 8⟩ "main" (quotientTree 1) { scope := quotientScope 3 }).1.Alike
      (evaluate ⟨100, 8⟩ "other" (quotientTree 9) { scope := quotientScope 5 }).1 := by
  have tokens : List.Forall₂ Token.Alike (quotientCall 1) (quotientCall 9) := by
    simp [quotientCall, Token.Alike]
  obtain ⟨parsed, evaluated⟩ := parse_and_evaluate_alike ⟨100, 8⟩ "main" "other"
  have run := evaluated (quotientTree 1) (quotientTree 9) (quotientScope 3) (quotientScope 5)
    (bareFree_quotientTree 1) (bareFree_quotientTree 9) rfl (bareFree_quotientScope 3)
    (bareFree_quotientScope 5) rfl
  exact ⟨tokens, parsed _ _ tokens none (some "main"), bareFree_quotientTree 1,
    bareFree_quotientTree 9, rfl, bareFree_quotientScope 3, bareFree_quotientScope 5, rfl, rfl,
    run.1⟩

end Script

end Scriptlet
