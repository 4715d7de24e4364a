import Scriptlet.Proofs.Evaluation.Truncation
import Scriptlet.Proofs.Script.Limit

/-!
Import statements have no effect. A sequence runs its first statement before it looks at whether a
return has been made, so in a sequence that is entered after a return an import statement would hold
back the statement that follows it. In parsed trees no sequence is entered then, since only
statements return. All that an import statement takes is a level of its own.
-/

namespace Scriptlet

namespace Node

open Eval

section ReturnsLast

/-- Whether a node goes on only after trees that make no return. -/
def ReturnsLast (node : Node) : Prop :=
  ∀ child ∈ node.interim, ¬ child.Returns

theorem mem_inner_of_interim {node child : Node} (inside : child ∈ node.interim) :
    child ∈ node.inner := by
  cases node with
  | binary | conditional | whileLoop =>
      cases List.mem_singleton.mp inside
      exact List.mem_cons_self
  | call | member | array => exact List.dropLast_subset _ inside
  | forLoop => exact inside
  | _ => cases inside

theorem WellFormed.not_returns {node : Node} (formed : WellFormed .expression node) :
    ¬ node.Returns := by
  have expressions {part : Node} (occurs : part.OccursOpenly node) :
      WellFormed .expression part := by
    induction occurs using Relation.ReflTransGen.head_induction_on with
    | refl => exact formed
    | head below _ ih => exact ih.inner_expression below
  rintro ⟨line, value, occurs⟩
  cases expressions occurs

theorem WellFormed.interim_expression {role : Role} {node child : Node}
    (formed : WellFormed role node) (inside : child ∈ node.interim) :
    WellFormed .expression child := by
  induction formed with
  | binary _ left _ =>
      cases List.mem_singleton.mp inside
      exact left
  | call parts | member parts | array parts => exact parts child (List.dropLast_subset _ inside)
  | conditional test _ _ | whileLoop test _ | forLoop test _ =>
      cases List.mem_singleton.mp inside
      exact test
  | elseIf _ ih | elseBlock _ ih => exact ih inside
  | _ => cases inside

/-- In trees that are parsed, only statements return. -/
theorem Parsed.returnsLast {tree : Node} (parsed : tree.Parsed) : tree.Everywhere ReturnsLast := by
  intro node occurs child inside
  obtain ⟨limit, tokens, file, whole, accepted, within⟩ := parsed
  have parsed : node.Parsed := ⟨limit, tokens, file, whole, accepted, occurs.trans within⟩
  obtain ⟨role, formed⟩ := parsed.wellFormed
  exact (formed.interim_expression inside).not_returns

theorem returnsLast_of_passes {tree : Node} (levels : Nat)
    (passed : tree.passes (fun node => node.interim.all
      (passes (fun part => !part.isReturn) levels)) levels = true) :
    tree.Everywhere ReturnsLast := by
  intro node occurs child inside
  have silent := List.all_eq_true.mp (everywhere_of_passes passed node occurs) child inside
  rintro ⟨line, value, within⟩
  cases everywhere_of_passes silent _ within.occurs

end ReturnsLast

end Node

structure Scope.Ready (scope : Scope) : Prop where
  running : scope.returned = false
  bodies : scope.Keeps (Node.Everywhere Node.ReturnsLast)

namespace Node

open Eval

theorem evaluate_keeps_bodies (setting : Setting) (depth : Nat) {node : Node}
    (last : node.Everywhere ReturnsLast) {machine : Machine} (ready : machine.scope.Ready) :
    ((node.evaluate setting depth).outcome machine).2.scope.Keeps (Everywhere ReturnsLast) :=
  (@evaluate_endsAmong _ (fun _ => true) (closed_everywhere ReturnsLast) (fun _ _ => rfl)
    (throw .unfinished) setting depth node last machine machine rfl rfl ready.bodies).keeps

theorem evaluate_ready (setting : Setting) (depth : Nat) {node : Node}
    (last : node.Everywhere ReturnsLast) (silent : ¬ node.Returns) {machine : Machine}
    (ready : machine.scope.Ready) :
    ((node.evaluate setting depth).outcome machine).2.scope.Ready where
  running := by
    have frames := evaluate_keeps_frames setting depth node machine
    exact (frames.signal silent).1.trans ready.running
  bodies := evaluate_keeps_bodies setting depth last ready

/-- An evaluator whose results are those of evaluation enters every node in a scope that is ready,
if it starts in one. -/
theorem follows_of_evaluate (setting : Setting) (depth : Nat) {step other : Node → Eval Value}
    (evaluates : ∀ node machine value reached, node.Everywhere ReturnsLast → machine.scope.Ready →
      (step node).outcome machine = (.ok value, reached) →
      (node.evaluate setting depth).outcome machine = (.ok value, reached))
    (steps : ∀ node machine, node.Everywhere ReturnsLast → machine.scope.Ready →
      UpToOverflow ((step node).outcome machine) ((other node).outcome machine)) :
    Follows (Everywhere ReturnsLast) Scope.Ready (Scope.Keeps (Everywhere ReturnsLast)) step
      other where
  below := closed_everywhere ReturnsLast
  binds _ _ _ ready := ⟨ready.running, ready.bodies⟩
  rests _ ready := ready.bodies
  resumes _ bodies running := ⟨running, bodies⟩
  calls scope name callee values bodies found := by
    refine ⟨bodies _ (Bindings.mem_of_find found), ?_, ?_⟩
    · exact Scope.returned_setVariables _ _ _
    · rw [Scope.Keeps, Scope.callFrame, Scope.functions_setVariables]
      exact bodies
  steps := steps
  leaves node machine value reached last ready ended := by
    have kept := evaluate_keeps_bodies setting depth last ready
    rw [evaluates node machine value reached last ready ended] at kept
    exact kept
  passes node child machine value reached last inside ready ended := by
    have childLast := last.below (.inl (mem_inner_of_interim inside))
    have kept := evaluate_ready setting depth childLast (last.here child inside) ready
    rw [evaluates child machine value reached childLast ready ended] at kept
    exact kept

section Imports

def isImport : Node → Bool
  | imports .. => true
  | _ => false

def sansImports (nodes : List Node) : List Node :=
  nodes.filter fun node => !node.isImport

def withoutImports : Node → Node :=
  pruned sansImports

/-- A node without the import statements in its own sequence. -/
def skipping : Node → Node
  | sequence line statements => .sequence line (sansImports statements)
  | node => node

theorem isImport_withoutImports (node : Node) :
    node.withoutImports.isImport = node.isImport := by
  rcases pruned_eq sansImports node with ⟨line, statements, rfl, cut⟩ | rebuilds
  · rw [withoutImports, cut]
    rfl
  · rw [withoutImports, rebuilds]
    cases node <;> rfl

theorem sansImports_map (nodes : List Node) :
    sansImports (nodes.map withoutImports) = (sansImports nodes).map withoutImports := by
  have same : (fun node => !node.isImport) ∘ withoutImports = fun node => !node.isImport :=
    funext fun node => congrArg not node.isImport_withoutImports
  rw [sansImports, List.filter_map, same]
  rfl

theorem withoutImports_eq (node : Node) :
    node.withoutImports = node.skipping.rebuilt id withoutImports := by
  have shape := pruned_eq sansImports node
  cases node with
  | sequence line statements =>
      rw [withoutImports, pruned, prunedAll_eq_map]
      exact congrArg (sequence line) (sansImports_map statements)
  | _ =>
      rcases shape with ⟨_, _, same, _⟩ | rebuilds
      · cases same
      · exact rebuilds

theorem not_isImport_of_withoutImports {tree node : Node} {line : Nat} {statements : List Node}
    (occurs : (sequence line statements).Occurs tree.withoutImports) (member : node ∈ statements) :
    node.isImport = false := by
  obtain ⟨uncut, rfl⟩ :=
    exists_cut_of_occurs (fun nodes => List.filter_sublist.subset) occurs
  simpa using (List.mem_filter.mp member).2

theorem everywhere_skipping {node : Node} (last : node.Everywhere ReturnsLast) :
    node.skipping.Everywhere ReturnsLast := by
  cases node with
  | sequence line statements =>
      refine everywhere_of_below ?_ (fun child inside => ?_) ?_
      · exact fun child inside => absurd inside List.not_mem_nil
      · exact last.below (.inl (List.mem_filter.mp inside).1)
      · exact fun child inside => absurd inside List.not_mem_nil
  | _ => exact last

/-- Evaluates a node, but passes over import statements, on which no level is spent. -/
def evaluateSkipping (setting : Setting) : (depth : Nat) → Node → Eval Value
  | 0, _ => throw .overflow
  | depth + 1, node =>
      evaluateLevel setting depth (evaluateSkipping setting depth) node.skipping

end Imports

end Node

def Scope.withoutImports (scope : Scope) : Scope :=
  scope.mapBodies Node.withoutImports

namespace Node

open Eval

theorem evaluateSkipping_agrees (setting : Setting) (depth : Nat) (node : Node) :
    (pruning sansImports).Agree (pruning sansImports).Values (node.evaluateSkipping setting depth)
      (node.withoutImports.evaluate setting depth) := by
  induction depth generalizing node with
  | zero => exact Simulation.agree_throw rfl
  | succ depth ih =>
      have kept : (pruning sansImports).kept node.skipping := trivial
      rw [withoutImports_eq]
      exact evaluateLevel_simulated (pruning_lawful sansImports setting) (fun child _ => ih child)
        depth kept

/-- Deleting import statements is the same as passing over them. -/
theorem evaluate_withoutImports_eq_skipping (setting : Setting) (depth : Nat) (node : Node)
    (machine : Machine) :
    let skipped := (node.evaluateSkipping setting depth).outcome machine
    let stripped := (node.withoutImports.evaluate setting depth).outcome
      { machine with scope := machine.scope.withoutImports }
    stripped.1 = skipped.1 ∧ stripped.2.output = skipped.2.output ∧
      stripped.2.scope = skipped.2.scope.withoutImports := by
  have scopes {scope other : Scope} :=
    @Simulation.scopes_iff (pruning sansImports) scope other fun _ => rfl
  have ended := evaluateSkipping_agrees setting depth node machine
    { machine with scope := machine.scope.withoutImports }
    ⟨scopes.mpr ⟨rfl, fun _ _ => trivial, machine.scope.every_true⟩, Array.empty_append.symm⟩
  obtain ⟨results, reached⟩ := ended.same (fun _ _ same => same.symm) fun _ => id
  exact ⟨results, (reached.output.trans Array.empty_append).symm, (scopes.mp reached.scopes).1⟩

/-- In a sequence that is entered before a return, import statements can be left out. -/
theorem evaluateSequence_sansImports (setting : Setting) (depth : Nat) (nodes : List Node)
    {machine : Machine} (running : machine.scope.returned = false) :
    (evaluateSequence (evaluate setting (depth + 1)) (sansImports nodes)).outcome machine =
      (evaluateSequence (evaluate setting (depth + 1)) nodes).outcome machine := by
  induction nodes generalizing machine with
  | nil => rfl
  | cons node rest ih =>
      by_cases kind : node.isImport = true
      · have passed :
            (evaluateSequence (evaluate setting (depth + 1)) (node :: rest)).outcome machine =
              (evaluateSequence (evaluate setting (depth + 1)) rest).outcome machine := by
          cases node with
          | imports line moduleName =>
              rw [evaluateSequence, outcome_bind, evaluate, evaluateLevel, outcome_pure, andThen,
                outcome_bind, outcome_scope, andThen, running]
              rfl
          | _ => cases kind
        rw [passed, ← ih running, sansImports, List.filter_cons_of_neg (by simp [kind])]
        rfl
      · have stays : sansImports (node :: rest) = node :: sansImports rest :=
          List.filter_cons_of_pos (by simpa using kind)
        rw [stays, evaluateSequence, evaluateSequence, outcome_bind, outcome_bind]
        rcases (node.evaluate setting (depth + 1)).outcome machine with ⟨_ | _, reached⟩
        · rfl
        · rw [andThen, andThen, outcome_bind, outcome_bind, outcome_scope, andThen, andThen]
          by_cases returned : reached.scope.returned = true
          · rw [if_pos returned, if_pos returned]
          · rw [if_neg returned, if_neg returned]
            exact ih (by simpa using returned)

theorem evaluateLevel_skipping (setting : Setting) (levels depth : Nat) (node : Node)
    {machine : Machine} (running : machine.scope.returned = false) :
    (evaluateLevel setting levels (evaluate setting (depth + 1)) node.skipping).outcome machine =
      (evaluateLevel setting levels (evaluate setting (depth + 1)) node).outcome machine := by
  cases node with
  | sequence line statements =>
      rw [skipping, evaluateLevel, evaluateLevel, outcome_bind, outcome_bind,
        evaluateSequence_sansImports setting depth statements running]
  | _ => rfl

/-- Without a level left below it, a node that has an import statement overflows there. -/
theorem evaluateLevel_upTo_skipping (setting : Setting) (levels depth : Nat) (node : Node)
    {machine : Machine} (running : machine.scope.returned = false) :
    UpToOverflow ((evaluateLevel setting levels (evaluate setting depth) node).outcome machine)
      ((evaluateLevel setting levels (evaluate setting depth) node.skipping).outcome machine) := by
  cases depth with
  | succ depth => exact .inr (evaluateLevel_skipping setting levels depth node running)
  | zero =>
      cases node with
      | sequence line statements =>
          cases statements with
          | nil => exact upToOverflow_rfl _
          | cons first rest => exact .inl rfl
      | _ => exact upToOverflow_rfl _

theorem evaluate_upTo_skipping (setting : Setting) (depth : Nat) {node : Node}
    (last : node.Everywhere ReturnsLast) {machine : Machine} (ready : machine.scope.Ready) :
    UpToOverflow ((node.evaluate setting depth).outcome machine)
      ((node.evaluateSkipping setting depth).outcome machine) := by
  induction depth generalizing node machine with
  | zero => exact .inl rfl
  | succ depth ih =>
      have follows := follows_of_evaluate setting depth (fun _ _ _ _ _ _ ended => ended)
        fun node machine last ready => ih last ready
      -- The node's own import statements go first, then those below it.
      have level := evaluateLevel_follows follows setting (Nat.le_refl depth)
        (everywhere_skipping last) ready
      exact (evaluateLevel_upTo_skipping setting depth depth node ready.running).trans level

/-- One level more is enough for all import statements: they are not nested in one another. -/
theorem evaluateSkipping_upTo_deeper (setting : Setting) (depth : Nat) {node : Node}
    (last : node.Everywhere ReturnsLast) {machine : Machine} (ready : machine.scope.Ready) :
    UpToOverflow ((node.evaluateSkipping setting depth).outcome machine)
      ((node.evaluate setting (depth + 1)).outcome machine) := by
  induction depth generalizing node machine with
  | zero => exact .inl rfl
  | succ depth ih =>
      have follows := follows_of_evaluate setting (depth + 1)
        (fun node machine value reached last ready => (ih last ready).eq_of_ok)
        fun node machine last ready => ih last ready
      -- Below the node one level is left in any case, so its import statements do not overflow.
      have level := evaluateLevel_follows follows setting (Nat.le_succ depth)
        (everywhere_skipping last) ready
      rw [evaluateLevel_skipping setting (depth + 1) depth node ready.running] at level
      exact level

end Node

namespace Script

/-- Where no node goes on after a return, as none does in parsed trees, deleting the import
statements of all sequences changes nothing in a run that is not cut off, but for the bodies of
functions, from which they are deleted as well. If the run without them is not cut off, the run with
them is the same under a limit that is greater by one. -/
theorem evaluate_withoutImports (bounds : Bounds) (file : String) (tree : Node) (machine : Machine)
    (running : machine.scope.returned = false) (last : tree.Everywhere Node.ReturnsLast)
    (bodies : machine.scope.Keeps (Node.Everywhere Node.ReturnsLast)) :
    let original := evaluate bounds file tree machine
    let stripped := evaluate bounds file tree.withoutImports
      { machine with scope := machine.scope.withoutImports }
    let roomier := evaluate ⟨bounds.limit + 1, bounds.rounds⟩ file tree machine
    (∀ node : Node, node.Parsed → node.Everywhere Node.ReturnsLast) ∧
    (∀ line statements, (Node.sequence line statements).Occurs tree.withoutImports →
      ∀ node ∈ statements, node.isImport = false) ∧
    (original.1.cutOff = false → stripped.1 = original.1 ∧
      stripped.2.output = original.2.output ∧
      stripped.2.scope = original.2.scope.withoutImports) ∧
    (stripped.1.cutOff = false → stripped.1 = roomier.1 ∧
      stripped.2.output = roomier.2.output ∧
      stripped.2.scope = roomier.2.scope.withoutImports) := by
  have ready : machine.scope.Ready := ⟨running, bodies⟩
  let setting : Setting := ⟨file, bounds.rounds⟩
  obtain ⟨results, outputs, scopes⟩ :=
    Node.evaluate_withoutImports_eq_skipping setting bounds.limit tree machine
  simp only [evaluate, Eval.run_eq_outcome]
  refine ⟨fun node parsed => parsed.returnsLast,
    fun line statements occurs node => Node.not_isImport_of_withoutImports occurs,
    fun uncut => ?_, fun uncut => ?_⟩
  · have same := (Node.evaluate_upTo_skipping setting bounds.limit last ready).eq_of_uncut uncut
    rw [same] at results outputs scopes
    exact ⟨congrArg (Eval.ending file) results, outputs, scopes⟩
  · rw [results] at uncut
    have deeper := Node.evaluateSkipping_upTo_deeper setting bounds.limit last ready
    have same := deeper.eq_of_uncut uncut
    rw [← same] at results outputs scopes
    exact ⟨congrArg (Eval.ending file) results, outputs, scopes⟩

/-- `import io; fun f(n) { import io; if (n > 0) { import io; return g(n); } } io::println(f(1));`
-/
def importing : Node :=
  .sequence 1
    [.imports 1 "io",
      .function 1 "f" ["n"] (.sequence 1
        [.imports 1 "io",
          .conditional 1 (.binary 1 .greater (.reference 1 "n") (.int 1 0))
            (.sequence 1 [.imports 1 "io", .returns 1 (some (.call 1 "g" [.reference 1 "n"]))])
            none]),
      .expression 1 (.member 1 "io" 1 "println" [.call 1 "f" [.int 1 1]])]

/-- A machine with a function `g` that has an import statement as well. -/
def importingMachine : Machine where
  scope :=
    { functions := ⟨[("g", ⟨["m"], .sequence 1
        [.imports 1 "io", .returns 1 (some (.reference 1 "m"))]⟩)]⟩ }

theorem evaluate_importing_withoutImports :
    importingMachine.scope.returned = false ∧ importing.Everywhere Node.ReturnsLast ∧
    importingMachine.scope.Keeps (Node.Everywhere Node.ReturnsLast) ∧
    let original := evaluate ⟨20, 8⟩ "main" importing importingMachine
    let stripped := evaluate ⟨20, 8⟩ "main" importing.withoutImports
      ⟨importingMachine.scope.withoutImports, importingMachine.output, importingMachine.events⟩
    original.1.cutOff = false ∧ stripped.2.output = #["dbg out: 1\n"] ∧
      stripped.2.scope = original.2.scope.withoutImports := by
  have last : importing.Everywhere Node.ReturnsLast := Node.returnsLast_of_passes 10 (by decide)
  have bodies : importingMachine.scope.Keeps (Node.Everywhere Node.ReturnsLast) := by
    intro entry member
    rw [List.mem_singleton.mp member]
    exact Node.returnsLast_of_passes 10 (by decide)
  obtain ⟨_, _, kept, _⟩ := evaluate_withoutImports ⟨20, 8⟩ "main" importing importingMachine rfl
    last bodies
  have uncut : (evaluate ⟨20, 8⟩ "main" importing importingMachine).1.cutOff = false := by
    decide +kernel
  have printed : (evaluate ⟨20, 8⟩ "main" importing importingMachine).2.output =
      #["dbg out: 1\n"] := by decide +kernel
  obtain ⟨_, outputs, scopes⟩ := kept uncut
  exact ⟨rfl, last, bodies, uncut, outputs.trans printed, scopes⟩

/-- A condition that returns, before a block that begins with an import statement. -/
def hasty : Node :=
  .sequence 1
    [.conditional 1 (.sequence 1 [.returns 1 none]) (.sequence 1 [])
      (some (.sequence 1
        [.imports 1 "io", .expression 1 (.member 1 "io" 1 "println" [.int 1 1])]))]

/-- After a return, deleting an import statement lets the next statement run. On the last level, it
avoids an overflow. -/
theorem evaluate_hasty_withoutImports :
    ({} : Scope).returned = false ∧
    (evaluate ⟨100, 8⟩ "main" hasty {}).2.output = #[] ∧
    (evaluate ⟨100, 8⟩ "main" hasty.withoutImports
      { scope := ({} : Scope).withoutImports }).2.output = #["dbg out: 1\n"] ∧
    (evaluate ⟨1, 8⟩ "main" (.sequence 1 [.imports 1 "io"]) {}).1.cutOff = true ∧
    (evaluate ⟨1, 8⟩ "main" (Node.sequence 1 [.imports 1 "io"]).withoutImports
      { scope := ({} : Scope).withoutImports }).1.cutOff = false := by
  refine ⟨rfl, ?_, ?_, ?_, ?_⟩
  · decide +kernel
  · decide +kernel
  · decide +kernel
  · decide +kernel

end Script

end Scriptlet
