import Scriptlet.Proofs.Evaluation.Vetting
import Scriptlet.Proofs.Value.Render

/-!
Two evaluators of the same trees. Suppose that the second does at the nodes below a node what the
first does there, unless that overflows. Then so it is at the node itself. The scopes in which nodes
are entered may be taken into account. One instance is that the levels which an evaluation may go
down decide only whether it overflows.
-/

namespace Scriptlet

namespace Eval

variable {α β : Type}

def UpToOverflow (first second : Except Stop α × Machine) : Prop :=
  first.1 = .error .overflow ∨ second = first

theorem upToOverflow_rfl (ended : Except Stop α × Machine) : UpToOverflow ended ended :=
  .inr rfl

theorem UpToOverflow.trans {first second third : Except Stop α × Machine}
    (head : UpToOverflow first second) (tail : UpToOverflow second third) :
    UpToOverflow first third := by
  rcases head with overflowed | rfl
  · exact .inl overflowed
  · exact tail

theorem UpToOverflow.eq_of_ok {first second : Except Stop α × Machine}
    (related : UpToOverflow first second) {result : α} {reached : Machine}
    (ended : first = (.ok result, reached)) : second = (.ok result, reached) := by
  subst ended
  rcases related with overflowed | same
  · cases overflowed
  · exact same

theorem upToOverflow_bind {shallow deep : Eval α} {next further : α → Eval β} {machine : Machine}
    (head : UpToOverflow (shallow.outcome machine) (deep.outcome machine))
    (tail : ∀ result reached, shallow.outcome machine = (.ok result, reached) →
      UpToOverflow ((next result).outcome reached) ((further result).outcome reached)) :
    UpToOverflow ((shallow >>= next).outcome machine) ((deep >>= further).outcome machine) := by
  rw [outcome_bind, outcome_bind]
  rcases ended : shallow.outcome machine with ⟨stop | result, reached⟩
  · rw [ended] at head
    rcases head with overflowed | same
    · cases overflowed
      exact .inl rfl
    · rw [same]
      exact upToOverflow_rfl _
  · rw [head.eq_of_ok ended]
    exact tail result reached ended

theorem upToOverflow_inFrame {frame : Scope} {body deeper : Eval Value} {machine : Machine}
    (inside : UpToOverflow (body.outcome { machine with scope := frame })
      (deeper.outcome { machine with scope := frame })) :
    UpToOverflow ((inFrame frame body).outcome machine)
      ((inFrame frame deeper).outcome machine) := by
  rw [outcome_inFrame, outcome_inFrame]
  rcases inside with overflowed | same
  · exact .inl (by rw [overflowed]; rfl)
  · exact .inr (by rw [same])

end Eval

namespace Node

open Eval

/-- The trees below a node after which it goes on with others in the same scope, without a look at
whether that has returned. -/
def interim : Node → List Node
  | binary _ _ left _ => [left]
  | call _ _ arguments | member _ _ _ _ arguments => arguments.dropLast
  | array _ elements => elements.dropLast
  | conditional _ condition _ _ | whileLoop _ condition _ => [condition]
  | forLoop _ _ elements _ => [elements]
  | _ => []

/-- What two evaluators of kept nodes have to bring with them. `entry` is what is known of the
scope whenever a node is entered, and `exit` is what is known of it afterwards. -/
structure Follows (kept : Node → Prop) (entry exit : Scope → Prop)
    (step other : Node → Eval Value) : Prop where
  below : Closed kept
  binds : ∀ scope name value, entry scope → entry (scope.setVariable name value)
  rests : ∀ scope, entry scope → exit scope
  resumes : ∀ scope, exit scope → scope.returned = false → entry scope
  calls : ∀ scope name callee values, exit scope → scope.functions.get? name = some callee →
    kept callee.body ∧ entry (scope.callFrame callee values)
  steps : ∀ node machine, kept node → entry machine.scope →
    UpToOverflow ((step node).outcome machine) ((other node).outcome machine)
  leaves : ∀ node machine value reached, kept node → entry machine.scope →
    (step node).outcome machine = (.ok value, reached) → exit reached.scope
  passes : ∀ node child machine value reached, kept node → child ∈ node.interim →
    entry machine.scope → (step child).outcome machine = (.ok value, reached) → entry reached.scope

section Level

variable {kept : Node → Prop} {entry exit : Scope → Prop} {step other : Node → Eval Value}
  (follows : Follows kept entry exit step other)

include follows

theorem evaluateSequence_follows {nodes : List Node} (nodesKept : ∀ node ∈ nodes, kept node)
    {machine : Machine} (entered : entry machine.scope) :
    UpToOverflow ((evaluateSequence step nodes).outcome machine)
      ((evaluateSequence other nodes).outcome machine) := by
  induction nodes generalizing machine with
  | nil => exact upToOverflow_rfl _
  | cons node rest ih =>
      obtain ⟨nodeKept, restKept⟩ := List.forall_mem_cons.mp nodesKept
      refine upToOverflow_bind (follows.steps node machine nodeKept entered)
        fun value reached ended => ?_
      refine upToOverflow_bind (upToOverflow_rfl _) fun scope after read => ?_
      cases read
      by_cases returned : reached.scope.returned = true
      · rw [if_pos returned, if_pos returned]
        exact upToOverflow_rfl _
      · rw [if_neg returned, if_neg returned]
        have left := follows.leaves node machine value reached nodeKept entered ended
        exact ih restKept (follows.resumes reached.scope left (by simpa using returned))

/-- A list of trees is evaluated alike if the node goes on after each of them but the last. -/
theorem evaluateAll_follows {node : Node} (nodeKept : kept node) {nodes : List Node}
    (nodesKept : ∀ child ∈ nodes, kept child)
    (between : ∀ child ∈ nodes.dropLast, child ∈ node.interim) {machine : Machine}
    (standing : exit machine.scope) (entered : nodes ≠ [] → entry machine.scope) :
    UpToOverflow ((evaluateAll step nodes).outcome machine)
        ((evaluateAll other nodes).outcome machine) ∧
      ∀ values reached, (evaluateAll step nodes).outcome machine = (.ok values, reached) →
        exit reached.scope := by
  induction nodes generalizing machine with
  | nil =>
      refine ⟨upToOverflow_rfl _, fun values reached ended => ?_⟩
      cases ended
      exact standing
  | cons child rest ih =>
      obtain ⟨childKept, restKept⟩ := List.forall_mem_cons.mp nodesKept
      replace entered := entered (List.cons_ne_nil _ _)
      -- The last tree may return: nothing is entered after it.
      have again {value : Value} {reached : Machine}
          (ended : (step child).outcome machine = (.ok value, reached)) := by
        have left := follows.leaves child machine value reached childKept entered ended
        refine ih restKept (fun later member => between later ?_) left fun more => ?_
        · exact List.mem_of_mem_tail (List.tail_dropLast ▸ member)
        · refine follows.passes node child machine value reached nodeKept (between child ?_) entered
            ended
          rw [List.dropLast_cons_of_ne_nil more]
          exact List.mem_cons_self
      constructor
      · refine upToOverflow_bind (follows.steps child machine childKept entered)
          fun value reached ended => ?_
        exact upToOverflow_bind (again ended).1 fun values last _ => upToOverflow_rfl _
      · intro values reached ended
        rw [evaluateAll, outcome_bind] at ended
        rcases first : (step child).outcome machine with ⟨stop | value, middle⟩
        · rw [first] at ended
          cases ended
        · rw [first, andThen, outcome_bind] at ended
          rcases others : (evaluateAll step rest).outcome middle with ⟨stop | found, last⟩
          · rw [others] at ended
            cases ended
          · rw [others] at ended
            cases ended
            exact (again first).2 found reached others

theorem evaluateAssign_follows (setting : Setting) {line : Nat} {name : String}
    {form : Assignment} {value : Node} (kept : kept (.assign line name form value))
    {machine : Machine} (entered : entry machine.scope) :
    UpToOverflow ((evaluateAssign setting line name form (step value)).outcome machine)
      ((evaluateAssign setting line name form (other value)).outcome machine) := by
  have valueKept := follows.below _ kept value (by simp [inner])
  have evaluates := follows.steps value machine valueKept entered
  have assigns : UpToOverflow
      ((step value >>= fun result => modifyScope (·.setVariable name result)).outcome machine)
      ((other value >>= fun result => modifyScope (·.setVariable name result)).outcome machine) :=
    upToOverflow_bind evaluates fun result reached _ => upToOverflow_rfl _
  cases form with
  | define =>
      refine upToOverflow_bind (upToOverflow_rfl _) fun scope after read => ?_
      cases read
      by_cases bound : machine.scope.values.contains name = true
      · rw [if_pos bound, if_pos bound]
        exact upToOverflow_rfl _
      · rw [if_neg bound, if_neg bound]
        exact assigns
  | replace =>
      refine upToOverflow_bind (upToOverflow_rfl _) fun scope after read => ?_
      cases read
      by_cases bound : machine.scope.values.contains name = true
      · rw [if_pos bound, if_pos bound]
        exact assigns
      · rw [if_neg bound, if_neg bound]
        exact upToOverflow_rfl _
  | compound text => exact upToOverflow_bind evaluates fun operand reached _ => upToOverflow_rfl _

theorem evaluateCall_follows (setting : Setting) {line : Nat} {name : String}
    {arguments : List Node} (kept : kept (.call line name arguments)) {machine : Machine}
    (entered : entry machine.scope) :
    UpToOverflow ((evaluateCall setting step line name arguments).outcome machine)
      ((evaluateCall setting other line name arguments).outcome machine) := by
  obtain ⟨evaluates, leaves⟩ := evaluateAll_follows follows kept
    (fun child member => follows.below _ kept child (.inl member)) (fun _ member => member)
    (follows.rests _ entered) fun _ => entered
  refine upToOverflow_bind evaluates fun values reached ended => ?_
  refine upToOverflow_bind (upToOverflow_rfl _) fun scope after read => ?_
  cases read
  cases found : reached.scope.functions.get? name with
  | none => exact upToOverflow_rfl _
  | some callee =>
      obtain ⟨bodyKept, frameEntered⟩ :=
        follows.calls _ name callee values (leaves values reached ended) found
      refine upToOverflow_bind (upToOverflow_rfl _) fun _ noted note => ?_
      cases note
      refine upToOverflow_bind (upToOverflow_inFrame ?_) fun frame last _ => upToOverflow_rfl _
      exact follows.steps callee.body _ bodyKept frameEntered

theorem evaluateMember_follows (setting : Setting) {depth deeper : Nat} (enough : depth ≤ deeper)
    {line callLine : Nat} {moduleName name : String} {arguments : List Node}
    (kept : kept (.member line moduleName callLine name arguments)) {machine : Machine}
    (entered : entry machine.scope) :
    UpToOverflow
      ((evaluateMember setting depth step line moduleName name arguments).outcome machine)
      ((evaluateMember setting deeper other line moduleName name arguments).outcome machine) := by
  obtain ⟨evaluates, _⟩ := evaluateAll_follows follows kept
    (fun child member => follows.below _ kept child (.inl member)) (fun _ member => member)
    (follows.rests _ entered) fun _ => entered
  unfold evaluateMember
  cases Intrinsic.lookup? moduleName name with
  | none => exact upToOverflow_rfl _
  | some intrinsic =>
      refine upToOverflow_bind evaluates fun values reached _ => ?_
      rcases intrinsic.output_of_more (Nat.div_le_div_right enough) values with deep | same
      · rw [deep]
        exact .inl rfl
      · rw [same]
        exact upToOverflow_rfl _

theorem evaluateWhile_follows {node condition body : Node} (nodeKept : kept node)
    (first : condition ∈ node.interim) (conditionKept : kept condition) (bodyKept : kept body)
    (rounds count : Nat) {machine : Machine}
    (standing : exit machine.scope) :
    UpToOverflow ((evaluateWhile (step condition) (step body) rounds count).outcome machine)
      ((evaluateWhile (other condition) (other body) rounds count).outcome machine) := by
  induction rounds generalizing count machine with
  | zero => exact upToOverflow_rfl _
  | succ rounds ih =>
      refine upToOverflow_bind (upToOverflow_rfl _) fun scope after read => ?_
      cases read
      by_cases returned : machine.scope.returned = true
      · rw [if_pos returned, if_pos returned]
        exact upToOverflow_rfl _
      · rw [if_neg returned, if_neg returned]
        have entered := follows.resumes machine.scope standing (by simpa using returned)
        refine upToOverflow_bind (follows.steps condition machine conditionKept entered)
          fun value tested ended => ?_
        by_cases holds : value.truthy = true
        · rw [if_pos holds, if_pos holds]
          have bodyEntered :=
            follows.passes node condition machine value tested nodeKept first entered ended
          refine upToOverflow_bind (follows.steps body tested bodyKept bodyEntered)
            fun result reached ran => ih (count + 1) ?_
          exact follows.leaves body tested result reached bodyKept bodyEntered ran
        · rw [if_neg holds, if_neg holds]
          exact upToOverflow_rfl _

theorem evaluateFor_follows (element : String) {body : Node} (bodyKept : kept body)
    (values : List Value) {machine : Machine} (entered : entry machine.scope) :
    UpToOverflow ((evaluateFor element (step body) values).outcome machine)
      ((evaluateFor element (other body) values).outcome machine) := by
  induction values generalizing machine with
  | nil => exact upToOverflow_rfl _
  | cons value rest ih =>
      refine upToOverflow_bind (upToOverflow_rfl _) fun scope after read => ?_
      cases read
      refine upToOverflow_bind (upToOverflow_inFrame ?_) fun frame reached ended => ih ?_
      · exact follows.steps body _ bodyKept (follows.binds _ element value entered)
      · rw [scope_of_inFrame ended]
        exact entered

/-- A node is evaluated alike if the nodes below it are, also if the second evaluator has more
levels left for rendering. -/
theorem evaluateLevel_follows (setting : Setting) {depth deeper : Nat} (enough : depth ≤ deeper)
    {node : Node} (nodeKept : kept node) {machine : Machine} (entered : entry machine.scope) :
    UpToOverflow ((evaluateLevel setting depth step node).outcome machine)
      ((evaluateLevel setting deeper other node).outcome machine) := by
  have below := follows.below node nodeKept
  have steps {child : Node} (inside : child ∈ node.inner) :=
    follows.steps child machine (below child (.inl inside)) entered
  have passes {child : Node} (inside : child ∈ node.interim) {value : Value} {reached : Machine} :=
    follows.passes node child machine value reached nodeKept inside entered
  cases node with
  | sequence line statements =>
      exact upToOverflow_bind
        (evaluateSequence_follows follows (fun child member => below child (.inl member)) entered)
        fun _ _ _ => upToOverflow_rfl _
  | imports | int | float | string | reference | function | bare => exact upToOverflow_rfl _
  | assign line name form value =>
      exact upToOverflow_bind (evaluateAssign_follows follows setting nodeKept entered)
        fun _ _ _ => upToOverflow_rfl _
  | binary line op left right =>
      refine upToOverflow_bind (steps (by simp [inner])) fun x reached ended => ?_
      refine upToOverflow_bind ?_ fun y last _ => upToOverflow_rfl _
      exact follows.steps right reached (below right (by simp [inner]))
        (passes (by simp [interim]) ended)
  | unary line op operand =>
      exact upToOverflow_bind (steps (by simp [inner])) fun _ _ _ => upToOverflow_rfl _
  | call line name arguments => exact evaluateCall_follows follows setting nodeKept entered
  | member line moduleName callLine name arguments =>
      exact evaluateMember_follows follows setting enough nodeKept entered
  | array line elements =>
      exact upToOverflow_bind
        (evaluateAll_follows follows nodeKept (fun child member => below child (.inl member))
          (fun _ member => member) (follows.rests _ entered) fun _ => entered).1
        fun _ _ _ => upToOverflow_rfl _
  | returns line value =>
      cases value with
      | none => exact upToOverflow_rfl _
      | some value =>
          exact upToOverflow_bind (steps (by simp [inner])) fun _ _ _ => upToOverflow_rfl _
  | expression line value =>
      exact upToOverflow_bind (steps (by simp [inner])) fun _ _ _ => upToOverflow_rfl _
  | conditional line condition thenBlock elseNode =>
      refine upToOverflow_bind (steps (by simp [inner])) fun value reached ended => ?_
      have goesOn := passes (by simp [interim]) ended
      by_cases holds : value.truthy = true
      · rw [if_pos holds, if_pos holds]
        exact follows.steps thenBlock reached (below thenBlock (by simp [inner])) goesOn
      · rw [if_neg holds, if_neg holds]
        cases elseNode with
        | none => exact upToOverflow_rfl _
        | some node => exact follows.steps node reached (below node (by simp [inner])) goesOn
  | whileLoop line condition body =>
      refine upToOverflow_bind ?_ fun _ _ _ => upToOverflow_rfl _
      exact evaluateWhile_follows follows nodeKept (by simp [interim])
        (below condition (by simp [inner])) (below body (by simp [inner])) setting.rounds 0
        (follows.rests _ entered)
  | forLoop line element elements body =>
      refine upToOverflow_bind (steps (by simp [inner])) fun value reached ended => ?_
      cases value with
      | array values =>
          refine upToOverflow_bind ?_ fun _ _ _ => upToOverflow_rfl _
          exact evaluateFor_follows follows element (below body (by simp [bodies])) values
            (passes (by simp [interim]) ended)
      | _ => exact upToOverflow_rfl _

end Level

/-- Nothing has to be known of nodes and scopes where the evaluators go together everywhere. -/
theorem follows_of_steps {step other : Node → Eval Value}
    (steps : ∀ node machine, UpToOverflow ((step node).outcome machine)
      ((other node).outcome machine)) :
    Follows (fun _ => True) (fun _ => True) (fun _ => True) step other where
  below _ _ _ _ := trivial
  binds _ _ _ _ := trivial
  rests _ _ := trivial
  resumes _ _ _ := trivial
  calls _ _ _ _ _ _ := ⟨trivial, trivial⟩
  steps node machine _ _ := steps node machine
  leaves _ _ _ _ _ _ _ := trivial
  passes _ _ _ _ _ _ _ _ _ := trivial

/-- An evaluation that may go deeper ends in the same way, and has done the same before. -/
theorem evaluate_of_deeper (setting : Setting) {depth deeper : Nat} (enough : depth ≤ deeper)
    (node : Node) (machine : Machine) :
    UpToOverflow ((node.evaluate setting depth).outcome machine)
      ((node.evaluate setting deeper).outcome machine) := by
  induction depth generalizing deeper node machine with
  | zero => exact .inl rfl
  | succ depth ih =>
      obtain ⟨further, rfl⟩ : ∃ further, deeper = further + 1 := ⟨deeper - 1, by omega⟩
      have closer : depth ≤ further := Nat.le_of_succ_le_succ enough
      have follows := follows_of_steps fun node machine => ih closer node machine
      exact evaluateLevel_follows follows setting closer trivial trivial

end Node

end Scriptlet
