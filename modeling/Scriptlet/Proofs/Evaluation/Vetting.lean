import Scriptlet.Proofs.Evaluation.Simulation
import Scriptlet.Proofs.Value.Operation

/-!
Runs that stay among certain nodes. If a tree and the bodies of the functions in scope consist of
such nodes, a run evaluates no others, whatever it declares and calls. So it makes no difference
what other nodes would do, and every fault is one that a node among them raises on its line.
-/

namespace Scriptlet

structure Fault.RaisedAt (file : String) (node : Node) (fault : Fault) : Prop where
  cause : node.Raises fault.cause
  line : fault.line = some node.line
  file : fault.file = some file

def Scope.Keeps (kept : Node → Prop) (scope : Scope) : Prop :=
  ∀ entry ∈ scope.functions.entries, kept entry.2.body

theorem Scope.mapBodies_id (scope : Scope) : scope.mapBodies id = scope := by
  have functions : scope.functions.map (fun function => ⟨function.parameters, id function.body⟩) =
      scope.functions := Bindings.map_id _
  rw [mapBodies, functions]

namespace Node

theorem rebuilt_id (node : Node) : node.rebuilt id id = node := by
  cases node <;> simp [rebuilt]

structure Answers (node : Node) (cause : Cause) : Prop where
  stage : cause.stage = .evaluation
  shallow : cause ≠ .stackOverflow
  bare : ∀ line, cause = .bareNode line → node = .bare line
  worded : ∀ text detail, cause = .unsupportedOperands text detail → detail ≠ ""

theorem answers_of_apply {node : Node} {op : Operator} {left right : Value} {cause : Cause}
    (failed : op.apply left right = .error cause) : node.Answers cause := by
  have gives := Operator.gives_apply (Operator.ruled_of_apply_error failed) left right
  rw [failed] at gives
  cases gives with
  | overflow | zero => constructor <;> simp [Cause.stage]
  | unsupported worded =>
      refine ⟨rfl, by simp, by simp, fun text detail same => ?_⟩
      cases same
      exact worded

theorem Raises.answers {node : Node} {cause : Cause} (raised : node.Raises cause) :
    node.Answers cause := by
  cases raised with
  | compound failed | binary failed => exact answers_of_apply failed
  | unary failed =>
      rcases Operator.applyUnary_error failed with rfl | ⟨detail, worded, rfl⟩
      · constructor <;> simp [Cause.stage]
      · refine ⟨rfl, by simp, by simp, fun text other same => ?_⟩
        cases same
        exact worded
  | intrinsic failed =>
      unfold Intrinsic.output at failed
      split at failed
      · split at failed <;> cases failed
        constructor <;> simp [Cause.stage]
      · cases failed
        constructor <;> simp [Cause.stage]
  | bare =>
      refine ⟨rfl, by simp, fun line same => ?_, by simp⟩
      cases same
      rfl
  | redefinition | unbound | reference | call | missing | forLoop =>
      constructor <;> simp [Cause.stage]

def Closed (kept : Node → Prop) : Prop :=
  ∀ node, kept node → ∀ child, child ∈ node.inner ∨ child ∈ node.bodies → kept child

theorem closed_occurs (tree : Node) : Closed fun node => Occurs node tree :=
  fun _ occurs _ below => .head below occurs

theorem closed_everywhere (property : Node → Prop) : Closed (Everywhere property) :=
  fun _ everywhere _ below => everywhere.below below

end Node

namespace Simulation

/-- Where nothing is changed and all names are visible, the scopes are the same. -/
theorem scopes_iff_of_unchanged {simulation : Simulation} {scope other : Scope}
    (all : ∀ name, simulation.visible name = true) (unchanged : simulation.change = id) :
    simulation.Scopes scope other ↔ other = scope ∧
      (∀ entry ∈ scope.functions.entries, simulation.kept entry.2.body) ∧
      scope.Every simulation.good := by
  have scopes := @scopes_iff simulation scope other all
  rw [unchanged, Scope.mapBodies_id] at scopes
  exact scopes

def among (kept : Node → Prop) (file : String) : Simulation where
  change := id
  kept := kept
  stops stop other := other = stop ∧
    ∀ fault, stop = .fault fault → ∃ node, kept node ∧ fault.RaisedAt file node

variable {kept : Node → Prop}

theorem among_lawful (closed : Node.Closed kept) (setting : Setting) :
    (among kept setting.file).Lawful setting setting where
  stable := Value.stable_true
  rounds := rfl
  overflow := ⟨rfl, fun _ same => by cases same⟩
  unfinished := ⟨rfl, fun _ same => by cases same⟩
  below := closed
  names _ _ _ _ := rfl
  faults node cause keeps raised := by
    have same : (among kept setting.file).rebuilt node = node := node.rebuilt_id
    rw [same]
    refine ⟨rfl, fun fault met => ?_⟩
    cases met
    exact ⟨node, keeps, raised, rfl, rfl⟩

theorem among_machines {file : String} {machine other : Machine} :
    (among kept file).Machines machine other ↔
      other.scope = machine.scope ∧ machine.scope.Keeps kept ∧ other.output = machine.output := by
  have scopes : (among kept file).Scopes machine.scope other.scope ↔ _ :=
    scopes_iff_of_unchanged (fun _ => rfl) rfl
  constructor
  · rintro ⟨related, output⟩
    obtain ⟨same, bodies, _⟩ := scopes.mp related
    exact ⟨same, bodies, (output.trans Array.empty_append).symm⟩
  · rintro ⟨same, bodies, output⟩
    exact ⟨scopes.mpr ⟨same, bodies, machine.scope.every_true⟩,
      output ▸ Array.empty_append.symm⟩

end Simulation

namespace Node

/-- Evaluates a node, but sounds an alarm at every node that is not fit. -/
def evaluateVetted (fit : Node → Bool) (alarm : Eval Value) (setting : Setting) :
    (depth : Nat) → Node → Eval Value
  | 0, _ => throw .overflow
  | depth + 1, node =>
      if fit node then evaluateLevel setting depth (evaluateVetted fit alarm setting depth) node
      else alarm

variable {kept : Node → Prop} {fit : Node → Bool}

theorem evaluate_agrees_vetted (closed : Closed kept) (fits : ∀ node, kept node → fit node = true)
    (alarm : Eval Value) (setting : Setting) (depth : Nat) {node : Node} (keeps : kept node) :
    (Simulation.among kept setting.file).Agree (Simulation.among kept setting.file).Values
      (node.evaluate setting depth) (node.evaluateVetted fit alarm setting depth) := by
  have lawful := Simulation.among_lawful closed setting
  induction depth generalizing node with
  | zero => exact Simulation.agree_throw lawful.overflow
  | succ depth ih =>
      have level := evaluateLevel_simulated lawful (fun child childKept => ih childKept) depth keeps
      have same : (Simulation.among kept setting.file).rebuilt node = node := node.rebuilt_id
      rw [same] at level
      rw [evaluateVetted, if_pos (fits node keeps)]
      exact level

structure EndsAmong (kept : Node → Prop) (file : String)
    (ended vetted : Except Stop Value × Machine) : Prop where
  result : vetted.1 = ended.1
  scope : vetted.2.scope = ended.2.scope
  output : vetted.2.output = ended.2.output
  keeps : ended.2.scope.Keeps kept
  faults : ∀ fault, ended.1 = .error (.fault fault) → ∃ node, kept node ∧ fault.RaisedAt file node

theorem evaluate_endsAmong (closed : Closed kept) (fits : ∀ node, kept node → fit node = true)
    (alarm : Eval Value) (setting : Setting) (depth : Nat) {node : Node} (keeps : kept node)
    {machine other : Machine} (scope : other.scope = machine.scope)
    (output : other.output = machine.output) (bodies : machine.scope.Keeps kept) :
    EndsAmong kept setting.file ((node.evaluate setting depth).outcome machine)
      ((node.evaluateVetted fit alarm setting depth).outcome other) := by
  have ended := evaluate_agrees_vetted closed fits alarm setting depth keeps machine other
    (Simulation.among_machines.mpr ⟨scope, bodies, output⟩)
  generalize (node.evaluate setting depth).outcome machine = left at ended ⊢
  generalize (node.evaluateVetted fit alarm setting depth).outcome other = right at ended ⊢
  cases ended with
  | finished same reached =>
      obtain ⟨rfl, _⟩ := same
      obtain ⟨scope, bodies, output⟩ := Simulation.among_machines.mp reached
      exact ⟨rfl, scope, output, bodies, fun _ failed => by cases failed⟩
  | stopped stops reached =>
      obtain ⟨rfl, raised⟩ := stops
      obtain ⟨scope, bodies, output⟩ := Simulation.among_machines.mp reached
      exact ⟨rfl, scope, output, bodies, fun fault failed => raised fault (by cases failed; rfl)⟩
  | excused excused => cases excused

end Node

end Scriptlet
