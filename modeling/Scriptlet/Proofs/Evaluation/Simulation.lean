import Scriptlet.Proofs.Evaluation.Frame

/-!
Two runs side by side. The second evaluates what a change makes of the trees that the first
evaluates; the scopes of the two agree on the names that the trees mention, up to the same change
in the bodies of functions. What one node does on both sides is shown once, for every change that
works node by node. What whole runs do follows by induction on the depth.
-/

namespace Scriptlet

structure Value.Stable (good : Value → Prop) : Prop where
  invalid : good .invalid
  literal : ∀ n, good (.int (Number.wrapWord n))
  float : ∀ x, good (.float x)
  string : ∀ text, good (.string text)
  array : ∀ {elements}, good (.array elements) ↔ ∀ element ∈ elements, good element
  apply : ∀ {op : Operator} {left right result}, good left → good right →
    op.apply left right = .ok result → good result
  applyUnary : ∀ {op : Operator} {operand result}, good operand →
    op.applyUnary operand = .ok result → good result

theorem Value.stable_true : Value.Stable fun _ => True where
  invalid := trivial
  literal _ := trivial
  float _ := trivial
  string _ := trivial
  array := by simp
  apply _ _ _ := trivial
  applyUnary _ _ := trivial

namespace Scope

def Every (good : Value → Prop) (scope : Scope) : Prop :=
  (∀ entry ∈ scope.values.entries, good entry.2) ∧ good scope.returnValue

instance (good : Value → Prop) [DecidablePred good] (scope : Scope) :
    Decidable (scope.Every good) :=
  inferInstanceAs (Decidable (_ ∧ _))

theorem every_true (scope : Scope) : scope.Every fun _ => True :=
  ⟨fun _ _ => trivial, trivial⟩

variable {good : Value → Prop} {scope : Scope}

theorem Every.get (every : scope.Every good) {name : String} {value : Value}
    (found : scope.values.get? name = some value) : good value :=
  every.1 _ (Bindings.mem_of_find found)

theorem Every.setVariable (every : scope.Every good) {value : Value} (new : good value)
    (name : String) : (scope.setVariable name value).Every good :=
  ⟨Bindings.forall_mem_put every.1 new, every.2⟩

def mapBodies (change : Node → Node) (scope : Scope) : Scope :=
  { scope with
    functions := scope.functions.map fun function => ⟨function.parameters, change function.body⟩ }

end Scope

namespace Node

def names : Node → List String
  | assign _ name _ _ | reference _ name | forLoop _ name _ _ => [name]
  | function _ _ parameters _ => parameters
  | _ => []

/-- A node of the same kind on another line, over changed nodes. A bare node stays where it is,
since the text of its fault says where that was. -/
def rebuilt (place : Nat → Nat) (change : Node → Node) : Node → Node
  | sequence line statements => .sequence (place line) (statements.map change)
  | imports line moduleName => .imports (place line) moduleName
  | assign line name form value => .assign (place line) name form (change value)
  | binary line op left right => .binary (place line) op (change left) (change right)
  | unary line op operand => .unary (place line) op (change operand)
  | int line value => .int (place line) value
  | float line value => .float (place line) value
  | string line value => .string (place line) value
  | reference line name => .reference (place line) name
  | call line name arguments => .call (place line) name (arguments.map change)
  | member line moduleName callLine name arguments =>
      .member (place line) moduleName (place callLine) name (arguments.map change)
  | array line elements => .array (place line) (elements.map change)
  | returns line value => .returns (place line) (value.map change)
  | function line name parameters body => .function (place line) name parameters (change body)
  | expression line value => .expression (place line) (change value)
  | conditional line condition thenBlock elseNode =>
      .conditional (place line) (change condition) (change thenBlock) (elseNode.map change)
  | whileLoop line condition body => .whileLoop (place line) (change condition) (change body)
  | forLoop line element elements body =>
      .forLoop (place line) element (change elements) (change body)
  | bare line => .bare line

theorem line_rebuilt (place : Nat → Nat) (change : Node → Node) (node : Node) :
    (node.rebuilt place change).line = node.line ∨
      (node.rebuilt place change).line = place node.line := by
  cases node with
  | bare line => exact .inl rfl
  | _ => exact .inr rfl

theorem inner_rebuilt (place : Nat → Nat) (change : Node → Node) (node : Node) :
    (node.rebuilt place change).inner = node.inner.map change := by
  cases node with
  | returns line value => cases value <;> rfl
  | conditional line condition thenBlock elseNode => cases elseNode <;> rfl
  | _ => rfl

theorem bodies_rebuilt (place : Nat → Nat) (change : Node → Node) (node : Node) :
    (node.rebuilt place change).bodies = node.bodies.map change := by
  cases node <;> rfl

/-- `Raises node cause`: the node itself, and not a node below it, may fail for the cause. -/
inductive Raises : Node → Cause → Prop
  | redefinition {line : Nat} {name : String} {value : Node} :
      Raises (.assign line name .define value) (.redefinition name)
  | unbound {line : Nat} {name : String} {form : Assignment} {value : Node} :
      Raises (.assign line name form value) (.undefinedVariable name)
  | compound {line : Nat} {name text : String} {value : Node} {current operand : Value}
      {cause : Cause} :
      (Assignment.operator text).apply current operand = .error cause →
      Raises (.assign line name (.compound text) value) cause
  | binary {line : Nat} {op : Operator} {left right : Node} {x y : Value} {cause : Cause} :
      op.apply x y = .error cause → Raises (.binary line op left right) cause
  | unary {line : Nat} {op : Operator} {operand : Node} {x : Value} {cause : Cause} :
      op.applyUnary x = .error cause → Raises (.unary line op operand) cause
  | reference {line : Nat} {name : String} :
      Raises (.reference line name) (.undefinedVariable name)
  | call {line : Nat} {name : String} {arguments : List Node} :
      Raises (.call line name arguments) (.undefinedFunction name)
  | missing {line callLine : Nat} {moduleName name : String} {arguments : List Node} :
      Raises (.member line moduleName callLine name arguments) (.missingMember moduleName name)
  | intrinsic {line callLine levels : Nat} {moduleName name : String} {arguments : List Node}
      {intrinsic : Intrinsic} {values : List Value} {cause : Cause} :
      intrinsic.output levels values = .error (.cause cause) →
      Raises (.member line moduleName callLine name arguments) cause
  | forLoop {line : Nat} {element : String} {elements body : Node} {value : Value} :
      Raises (.forLoop line element elements body) (.notIterable value.typeName)
  | bare {line : Nat} : Raises (.bare line) (.bareNode line)

end Node

/-- How two runs compare. The second evaluates `change node` where the first evaluates `node`, one
of the `kept` nodes; the scopes agree on the `visible` names, and all values of the first are
`good`. `printed` is what only the first has printed before. If the first ends in an `excused` stop,
nothing is said of the second. -/
structure Simulation where
  change : Node → Node
  place : Nat → Nat := id
  kept : Node → Prop := fun _ => True
  visible : String → Bool := fun _ => true
  good : Value → Prop := fun _ => True
  printed : Array String := #[]
  stops : Stop → Stop → Prop := Eq
  excused : Stop → Prop := fun _ => False

namespace Simulation

def rebuilt (simulation : Simulation) : Node → Node :=
  Node.rebuilt simulation.place simulation.change

def shown (simulation : Simulation) (scope : Scope) : List (String × Value) :=
  scope.values.entries.filter fun entry => simulation.visible entry.1

structure Admits (simulation : Simulation) (function : Function) : Prop where
  body : simulation.kept function.body
  parameters : ∀ name ∈ function.parameters, simulation.visible name = true

structure Scopes (simulation : Simulation) (scope other : Scope) : Prop where
  values : simulation.shown other = simulation.shown scope
  functions : other.functions = (scope.mapBodies simulation.change).functions
  bodies : ∀ entry ∈ scope.functions.entries, simulation.Admits entry.2
  returnValue : other.returnValue = scope.returnValue
  returned : other.returned = scope.returned
  every : scope.Every simulation.good

structure Machines (simulation : Simulation) (machine other : Machine) : Prop where
  scopes : simulation.Scopes machine.scope other.scope
  output : machine.output = simulation.printed ++ other.output

def Values (simulation : Simulation) (value other : Value) : Prop :=
  value = other ∧ simulation.good value

def Lists (simulation : Simulation) (values others : List Value) : Prop :=
  values = others ∧ ∀ value ∈ values, simulation.good value

inductive Ended {α β : Type} (simulation : Simulation) (results : α → β → Prop) :
    Except Stop α × Machine → Except Stop β × Machine → Prop
  | finished {result : α} {other : β} {machine reached : Machine} :
      results result other → simulation.Machines machine reached →
      Ended simulation results (.ok result, machine) (.ok other, reached)
  | stopped {stop other : Stop} {machine reached : Machine} :
      simulation.stops stop other → simulation.Machines machine reached →
      Ended simulation results (.error stop, machine) (.error other, reached)
  | excused {stop : Stop} {machine : Machine} {ended : Except Stop β × Machine} :
      simulation.excused stop → Ended simulation results (.error stop, machine) ended

def Agree {α β : Type} (simulation : Simulation) (results : α → β → Prop) (first : Eval α)
    (second : Eval β) : Prop :=
  ∀ machine other, simulation.Machines machine other →
    simulation.Ended results (first.outcome machine) (second.outcome other)

structure Lawful (simulation : Simulation) (setting second : Setting) : Prop where
  stable : Value.Stable simulation.good
  rounds : second.rounds = setting.rounds
  overflow : simulation.stops .overflow .overflow
  unfinished : simulation.stops .unfinished .unfinished
  below : ∀ node, simulation.kept node → ∀ child, child ∈ node.inner ∨ child ∈ node.bodies →
    simulation.kept child
  names : ∀ node, simulation.kept node → ∀ name ∈ node.names, simulation.visible name = true
  faults : ∀ node cause, simulation.kept node → node.Raises cause →
    simulation.stops (.fault ⟨cause, some node.line, some setting.file⟩)
      (.fault ⟨cause, some (simulation.rebuilt node).line, some second.file⟩)

variable {simulation : Simulation}

section Scopes

variable {scope other : Scope}

theorem Scopes.get (scopes : simulation.Scopes scope other) {name : String}
    (visible : simulation.visible name = true) :
    other.values.get? name = scope.values.get? name := by
  have same := congrArg (Bindings.find? name) scopes.values
  rw [shown, shown, Bindings.find_filter visible, Bindings.find_filter visible] at same
  exact same

theorem Scopes.contains (scopes : simulation.Scopes scope other) {name : String}
    (visible : simulation.visible name = true) :
    other.values.contains name = scope.values.contains name := by
  rw [Bindings.contains, Bindings.contains, scopes.get visible]

theorem Scopes.setVariable (scopes : simulation.Scopes scope other) {name : String}
    (visible : simulation.visible name = true) {value : Value} (good : simulation.good value) :
    simulation.Scopes (scope.setVariable name value) (other.setVariable name value) where
  values := by
    have same := congrArg (Bindings.put name value) scopes.values
    rw [shown, shown, ← Bindings.put_filter visible, ← Bindings.put_filter visible] at same
    exact same
  functions := scopes.functions
  bodies := scopes.bodies
  returnValue := scopes.returnValue
  returned := scopes.returned
  every := scopes.every.setVariable good name

theorem Scopes.setVariables (scopes : simulation.Scopes scope other) {names : List String}
    (visible : ∀ name ∈ names, simulation.visible name = true) {values : List Value}
    (goods : ∀ value ∈ values, simulation.good value) :
    simulation.Scopes (scope.setVariables names values) (other.setVariables names values) := by
  induction names generalizing scope other values with
  | nil => exact scopes
  | cons name names ih =>
      cases values with
      | nil => exact scopes
      | cons value values =>
          obtain ⟨nameVisible, visible⟩ := List.forall_mem_cons.mp visible
          obtain ⟨good, goods⟩ := List.forall_mem_cons.mp goods
          exact ih (scopes.setVariable nameVisible good) visible goods

theorem Scopes.setFunction (scopes : simulation.Scopes scope other) (name : String)
    {function : Function} (admitted : simulation.Admits function) :
    simulation.Scopes (scope.setFunction name function)
      (other.setFunction name ⟨function.parameters, simulation.change function.body⟩) where
  values := scopes.values
  functions := by
    simp [Scope.setFunction, Scope.mapBodies, scopes.functions]
  bodies := Bindings.forall_mem_put scopes.bodies admitted
  returnValue := scopes.returnValue
  returned := scopes.returned
  every := scopes.every

theorem Scopes.setReturn (scopes : simulation.Scopes scope other) {value twin : Value}
    (values : simulation.Values value twin) (returned : Bool) :
    simulation.Scopes { scope with returnValue := value, returned := returned }
      { other with returnValue := twin, returned := returned } where
  values := scopes.values
  functions := scopes.functions
  bodies := scopes.bodies
  returnValue := values.1.symm
  returned := rfl
  every := ⟨scopes.every.1, values.2⟩

theorem Scopes.callFrame (scopes : simulation.Scopes scope other) (invalid : simulation.good .invalid)
    {function : Function} (admitted : simulation.Admits function) {values : List Value}
    (goods : ∀ value ∈ values, simulation.good value) :
    simulation.Scopes (scope.callFrame function values)
      (other.callFrame ⟨function.parameters, simulation.change function.body⟩ values) :=
  (scopes.setReturn ⟨rfl, invalid⟩ false).setVariables admitted.parameters goods

theorem Scopes.getFunction (scopes : simulation.Scopes scope other) (name : String) :
    other.functions.get? name = (scope.functions.get? name).map fun function =>
      ⟨function.parameters, simulation.change function.body⟩ := by
  rw [scopes.functions]
  exact Bindings.get_map _ _ _

theorem Scopes.admits (scopes : simulation.Scopes scope other) {name : String}
    {function : Function} (found : scope.functions.get? name = some function) :
    simulation.Admits function :=
  scopes.bodies _ (Bindings.mem_of_find found)

/-- Where all names are visible, the second scope is the first with its bodies changed. -/
theorem scopes_iff (all : ∀ name, simulation.visible name = true) :
    simulation.Scopes scope other ↔ other = scope.mapBodies simulation.change ∧
      (∀ entry ∈ scope.functions.entries, simulation.kept entry.2.body) ∧
      scope.Every simulation.good := by
  have shows (scope : Scope) : simulation.shown scope = scope.values.entries :=
    List.filter_eq_self.mpr fun entry _ => all entry.1
  constructor
  · rintro ⟨values, functions, bodies, returnValue, returned, every⟩
    rw [shows, shows] at values
    refine ⟨?_, fun entry member => (bodies entry member).body, every⟩
    obtain ⟨⟨entries⟩, _, _, _⟩ := other
    dsimp only at values functions returnValue returned
    rw [values, functions, returnValue, returned]
    rfl
  · rintro ⟨rfl, bodies, every⟩
    refine ⟨?_, rfl, fun entry member => ⟨bodies entry member, fun name _ => all name⟩, rfl, rfl,
      every⟩
    rw [shows, shows]
    rfl

end Scopes

section Agree

variable {α β γ δ : Type} {results : α → β → Prop}

theorem Agree.bind {further : γ → δ → Prop} {first : Eval α} {second : Eval β}
    {next : α → Eval γ} {other : β → Eval δ} (head : simulation.Agree results first second)
    (tail : ∀ a b, results a b → simulation.Agree further (next a) (other b)) :
    simulation.Agree further (first >>= next) (second >>= other) := by
  intro machine beside machines
  have ended := head machine beside machines
  rw [Eval.outcome_bind, Eval.outcome_bind]
  generalize first.outcome machine = left at ended
  generalize second.outcome beside = right at ended
  cases ended with
  | finished related reached => exact tail _ _ related _ _ reached
  | stopped stops reached => exact .stopped stops reached
  | excused excused => exact .excused excused

theorem agree_pure {a : α} {b : β} (related : results a b) :
    simulation.Agree results (pure a) (pure b) :=
  fun _ _ machines => .finished related machines

theorem agree_throw {stop other : Stop} (stops : simulation.stops stop other) :
    simulation.Agree results (throw stop : Eval α) (throw other : Eval β) :=
  fun _ _ machines => .stopped stops machines

theorem agree_scope : simulation.Agree simulation.Scopes Eval.scope Eval.scope :=
  fun _ _ machines => .finished machines.scopes machines

theorem agree_modifyScope {change other : Scope → Scope}
    (related : ∀ scope twin, simulation.Scopes scope twin →
      simulation.Scopes (change scope) (other twin)) :
    simulation.Agree Eq (Eval.modifyScope change) (Eval.modifyScope other) :=
  fun _ _ machines => .finished rfl ⟨related _ _ machines.scopes, machines.output⟩

theorem agree_note (event other : Event) :
    simulation.Agree Eq (Eval.note event) (Eval.note other) :=
  fun _ _ machines => .finished rfl ⟨machines.scopes, machines.output⟩

theorem agree_print (text : String) :
    simulation.Agree Eq (Eval.print text) (Eval.print text) := by
  intro machine beside machines
  refine .finished rfl ⟨machines.scopes, ?_⟩
  simp [machines.output]

theorem agree_inFrame {frame other : Scope} {body second : Eval Value}
    (frames : simulation.Scopes frame other)
    (bodies : simulation.Agree simulation.Values body second) :
    simulation.Agree simulation.Scopes (Eval.inFrame frame body) (Eval.inFrame other second) := by
  intro machine beside machines
  have ended := bodies { machine with scope := frame } { beside with scope := other }
    ⟨frames, machines.output⟩
  rw [Eval.outcome_inFrame, Eval.outcome_inFrame]
  generalize body.outcome { machine with scope := frame } = left at ended
  generalize second.outcome { beside with scope := other } = right at ended
  cases ended with
  | finished _ reached => exact .finished reached.scopes ⟨machines.scopes, reached.output⟩
  | stopped stops reached => exact .stopped stops ⟨machines.scopes, reached.output⟩
  | excused excused => exact .excused excused

theorem Ended.of_ok {left : Except Stop α × Machine} {right : Except Stop β × Machine}
    (ended : simulation.Ended results left right) {result : α} (finished : left.1 = .ok result) :
    ∃ other, results result other := by
  cases ended with
  | finished related _ =>
      cases finished
      exact ⟨_, related⟩
  | stopped => cases finished
  | excused => cases finished

/-- If stops are the same on both sides, the results of outcomes side by side are. -/
theorem Ended.same {left right : Except Stop Value × Machine}
    (ended : simulation.Ended simulation.Values left right)
    (plain : ∀ stop other, simulation.stops stop other → other = stop)
    (inexcusable : ∀ stop, ¬ simulation.excused stop) :
    right.1 = left.1 ∧ simulation.Machines left.2 right.2 := by
  cases ended with
  | finished values reached => exact ⟨congrArg Except.ok values.1.symm, reached⟩
  | stopped stops reached => exact ⟨congrArg Except.error (plain _ _ stops), reached⟩
  | excused excused => exact absurd excused (inexcusable _)

end Agree

end Simulation

namespace Node

open Simulation

section Level

variable {simulation : Simulation} {setting second : Setting} {step other : Node → Eval Value}
  (lawful : simulation.Lawful setting second)
  (steps : ∀ node, simulation.kept node →
    simulation.Agree simulation.Values (step node) (other (simulation.change node)))

include lawful in
theorem fail_simulated {α β : Type} {results : α → β → Prop} {node : Node}
    (kept : simulation.kept node) {cause : Cause} (raised : node.Raises cause) :
    simulation.Agree results (setting.fail node.line cause)
      (second.fail (simulation.rebuilt node).line cause) :=
  agree_throw (lawful.faults node cause kept raised)

include lawful in
theorem located_simulated {node : Node} (kept : simulation.kept node) {result : Except Cause Value}
    (good : ∀ value, result = .ok value → simulation.good value)
    (raised : ∀ cause, result = .error cause → node.Raises cause) :
    simulation.Agree simulation.Values (setting.located node.line result)
      (second.located (simulation.rebuilt node).line result) := by
  cases result with
  | ok value => exact agree_pure ⟨rfl, good value rfl⟩
  | error cause => exact fail_simulated lawful kept (raised cause rfl)

include steps

theorem evaluateSequence_simulated {nodes : List Node} (kept : ∀ node ∈ nodes, simulation.kept node) :
    simulation.Agree Eq (evaluateSequence step nodes)
      (evaluateSequence other (nodes.map simulation.change)) := by
  induction nodes with
  | nil => exact agree_pure rfl
  | cons node rest ih =>
      obtain ⟨nodeKept, restKept⟩ := List.forall_mem_cons.mp kept
      refine (steps node nodeKept).bind fun _ _ _ => agree_scope.bind fun scope twin scopes => ?_
      rw [scopes.returned]
      by_cases returned : scope.returned = true
      · rw [if_pos returned, if_pos returned]
        exact agree_pure rfl
      · rw [if_neg returned, if_neg returned]
        exact ih restKept

theorem evaluateAll_simulated {nodes : List Node} (kept : ∀ node ∈ nodes, simulation.kept node) :
    simulation.Agree simulation.Lists (evaluateAll step nodes)
      (evaluateAll other (nodes.map simulation.change)) := by
  induction nodes with
  | nil => exact agree_pure ⟨rfl, fun _ member => absurd member List.not_mem_nil⟩
  | cons node rest ih =>
      obtain ⟨nodeKept, restKept⟩ := List.forall_mem_cons.mp kept
      refine (steps node nodeKept).bind fun value _ same => (ih restKept).bind fun values _ others => ?_
      obtain ⟨rfl, good⟩ := same
      obtain ⟨rfl, goods⟩ := others
      exact agree_pure ⟨rfl, List.forall_mem_cons.mpr ⟨good, goods⟩⟩

include lawful

theorem evaluateAssign_simulated {line : Nat} {name : String} {form : Assignment} {value : Node}
    (kept : simulation.kept (.assign line name form value)) :
    simulation.Agree Eq (evaluateAssign setting line name form (step value))
      (evaluateAssign second (simulation.place line) name form (other (simulation.change value))) := by
  have visible := lawful.names _ kept name (by simp [names])
  have valueKept := lawful.below _ kept value (by simp [inner])
  have assigns (result : Value) (good : simulation.good result) :
      simulation.Agree Eq (Eval.modifyScope (·.setVariable name result))
        (Eval.modifyScope (·.setVariable name result)) :=
    agree_modifyScope fun _ _ scopes => scopes.setVariable visible good
  have evaluates : simulation.Agree Eq
      (step value >>= fun result => Eval.modifyScope (·.setVariable name result))
      (other (simulation.change value) >>= fun result =>
        Eval.modifyScope (·.setVariable name result)) := by
    refine (steps value valueKept).bind fun result _ same => ?_
    obtain ⟨rfl, good⟩ := same
    exact assigns _ good
  cases form with
  | define =>
      refine agree_scope.bind fun scope twin scopes => ?_
      rw [scopes.contains visible]
      by_cases bound : scope.values.contains name = true
      · rw [if_pos bound, if_pos bound]
        have refused := @fail_simulated _ _ _ lawful Unit Unit Eq _ kept _ .redefinition
        exact refused.bind fun _ _ _ => evaluates
      · rw [if_neg bound, if_neg bound]
        exact evaluates
  | replace =>
      refine agree_scope.bind fun scope twin scopes => ?_
      rw [scopes.contains visible]
      by_cases bound : scope.values.contains name = true
      · rw [if_pos bound, if_pos bound]
        exact evaluates
      · rw [if_neg bound, if_neg bound]
        have refused := @fail_simulated _ _ _ lawful Unit Unit Eq _ kept _ .unbound
        exact refused.bind fun _ _ _ => evaluates
  | compound text =>
      refine (steps value valueKept).bind fun operand _ same =>
        agree_scope.bind fun scope twin scopes => ?_
      obtain ⟨rfl, good⟩ := same
      rw [scopes.get visible]
      cases found : scope.values.get? name with
      | none => exact fail_simulated lawful kept .unbound
      | some current =>
          refine (located_simulated lawful kept (fun result applied => ?_)
            fun cause => .compound).bind fun result _ same => ?_
          · exact lawful.stable.apply (scopes.every.get found) good applied
          · obtain ⟨rfl, good⟩ := same
            exact assigns _ good

theorem evaluateCall_simulated {line : Nat} {name : String} {arguments : List Node}
    (kept : simulation.kept (.call line name arguments)) :
    simulation.Agree simulation.Values (evaluateCall setting step line name arguments)
      (evaluateCall second other (simulation.place line) name
        (arguments.map simulation.change)) := by
  have argumentsKept (node : Node) (member : node ∈ arguments) : simulation.kept node :=
    lawful.below _ kept node (.inl member)
  refine (evaluateAll_simulated steps argumentsKept).bind fun values _ same =>
    agree_scope.bind fun scope twin scopes => ?_
  obtain ⟨rfl, goods⟩ := same
  rw [scopes.getFunction]
  cases found : scope.functions.get? name with
  | none => exact fail_simulated lawful kept .call
  | some callee =>
      have admitted := scopes.admits found
      have frames := scopes.callFrame lawful.stable.invalid admitted goods
      refine (agree_note _ _).bind fun _ _ _ =>
        (agree_inFrame frames (steps callee.body admitted.body)).bind fun frame last related => ?_
      exact agree_pure ⟨related.returnValue.symm, related.every.2⟩

theorem evaluateMember_simulated (depth : Nat) {line callLine : Nat} {moduleName name : String}
    {arguments : List Node}
    (kept : simulation.kept (.member line moduleName callLine name arguments)) :
    simulation.Agree simulation.Values
      (evaluateMember setting depth step line moduleName name arguments)
      (evaluateMember second depth other (simulation.place line) moduleName name
        (arguments.map simulation.change)) := by
  have argumentsKept (node : Node) (member : node ∈ arguments) : simulation.kept node :=
    lawful.below _ kept node (.inl member)
  unfold evaluateMember
  cases Intrinsic.lookup? moduleName name with
  | none => exact fail_simulated lawful kept .missing
  | some intrinsic =>
      refine (evaluateAll_simulated steps argumentsKept).bind fun values _ same => ?_
      obtain ⟨rfl, _⟩ := same
      rcases printed : intrinsic.output (depth / 2) values with (cause | _) | text
      · exact fail_simulated lawful kept (.intrinsic printed)
      · exact agree_throw lawful.overflow
      · exact (agree_print text).bind fun _ _ _ => agree_pure ⟨rfl, lawful.stable.invalid⟩

theorem evaluateWhile_simulated {condition body : Node} (conditionKept : simulation.kept condition)
    (bodyKept : simulation.kept body) (rounds count : Nat) :
    simulation.Agree Eq (evaluateWhile (step condition) (step body) rounds count)
      (evaluateWhile (other (simulation.change condition)) (other (simulation.change body)) rounds
        count) := by
  induction rounds generalizing count with
  | zero => exact agree_throw lawful.unfinished
  | succ rounds ih =>
      refine agree_scope.bind fun scope twin scopes => ?_
      rw [scopes.returned]
      by_cases returned : scope.returned = true
      · rw [if_pos returned, if_pos returned]
        exact agree_pure rfl
      · rw [if_neg returned, if_neg returned]
        refine (steps condition conditionKept).bind fun value _ same => ?_
        obtain ⟨rfl, _⟩ := same
        by_cases holds : value.truthy = true
        · rw [if_pos holds, if_pos holds]
          exact (steps body bodyKept).bind fun _ _ _ => ih (count + 1)
        · rw [if_neg holds, if_neg holds]
          exact agree_pure rfl

omit lawful in
theorem evaluateFor_simulated {element : String} {body : Node} (visible : simulation.visible element)
    (bodyKept : simulation.kept body) {values : List Value}
    (goods : ∀ value ∈ values, simulation.good value) :
    simulation.Agree Eq (evaluateFor element (step body) values)
      (evaluateFor element (other (simulation.change body)) values) := by
  induction values with
  | nil => exact agree_pure rfl
  | cons value rest ih =>
      obtain ⟨good, goods⟩ := List.forall_mem_cons.mp goods
      refine agree_scope.bind fun scope twin scopes => ?_
      have frames := scopes.setVariable visible good
      exact (agree_inFrame frames (steps body bodyKept)).bind fun _ _ _ => ih goods

/-- A node and the node rebuilt from it go side by side if the nodes below them do. -/
theorem evaluateLevel_simulated (depth : Nat) {node : Node} (kept : simulation.kept node) :
    simulation.Agree simulation.Values (evaluateLevel setting depth step node)
      (evaluateLevel second depth other (simulation.rebuilt node)) := by
  have nothing : simulation.Values .invalid .invalid := ⟨rfl, lawful.stable.invalid⟩
  have below := lawful.below node kept
  cases node with
  | sequence line statements =>
      exact (evaluateSequence_simulated steps fun node member => below node (.inl member)).bind
        fun _ _ _ => agree_pure nothing
  | imports => exact agree_pure nothing
  | assign line name form value =>
      exact (evaluateAssign_simulated lawful steps kept).bind fun _ _ _ => agree_pure nothing
  | binary line op left right =>
      refine (steps left (below left (by simp [inner]))).bind fun x _ same =>
        (steps right (below right (by simp [inner]))).bind fun y _ also => ?_
      obtain ⟨rfl, leftGood⟩ := same
      obtain ⟨rfl, rightGood⟩ := also
      exact located_simulated lawful kept (fun result => lawful.stable.apply leftGood rightGood)
        fun cause => .binary
  | unary line op operand =>
      refine (steps operand (below operand (by simp [inner]))).bind fun x _ same => ?_
      obtain ⟨rfl, good⟩ := same
      exact located_simulated lawful kept (fun result => lawful.stable.applyUnary good)
        fun cause => .unary
  | int line value => exact agree_pure ⟨rfl, lawful.stable.literal value⟩
  | float line value => exact agree_pure ⟨rfl, lawful.stable.float value⟩
  | string line value => exact agree_pure ⟨rfl, lawful.stable.string value⟩
  | reference line name =>
      have visible := lawful.names _ kept name (by simp [names])
      refine agree_scope.bind fun scope twin scopes => ?_
      rw [scopes.get visible]
      cases found : scope.values.get? name with
      | none => exact fail_simulated lawful kept .reference
      | some value => exact agree_pure ⟨rfl, scopes.every.get found⟩
  | call line name arguments => exact evaluateCall_simulated lawful steps kept
  | member line moduleName callLine name arguments =>
      exact evaluateMember_simulated lawful steps depth kept
  | array line elements =>
      refine (evaluateAll_simulated steps fun node member => below node (.inl member)).bind
        fun values _ same => ?_
      obtain ⟨rfl, goods⟩ := same
      exact agree_pure ⟨rfl, lawful.stable.array.mpr goods⟩
  | returns line value =>
      cases value with
      | none =>
          refine (agree_modifyScope fun scope twin scopes => ?_).bind fun _ _ _ =>
            agree_pure nothing
          exact scopes.setReturn ⟨scopes.returnValue.symm, scopes.every.2⟩ true
      | some value =>
          refine (steps value (below value (by simp [inner]))).bind fun result _ same => ?_
          obtain ⟨rfl, good⟩ := same
          refine (agree_modifyScope fun scope twin scopes => ?_).bind fun _ _ _ =>
            agree_pure nothing
          exact scopes.setReturn ⟨rfl, good⟩ true
  | function line name parameters body =>
      have admitted : simulation.Admits ⟨parameters, body⟩ :=
        ⟨below body (by simp [bodies]), lawful.names _ kept⟩
      refine (agree_modifyScope fun scope twin scopes => ?_).bind fun _ _ _ => agree_pure nothing
      exact scopes.setFunction name admitted
  | expression line value =>
      exact (steps value (below value (by simp [inner]))).bind fun _ _ _ => agree_pure nothing
  | conditional line condition thenBlock elseNode =>
      refine (steps condition (below condition (by simp [inner]))).bind fun value _ same => ?_
      obtain ⟨rfl, _⟩ := same
      by_cases holds : value.truthy = true
      · rw [if_pos holds, if_pos holds]
        exact steps thenBlock (below thenBlock (by simp [inner]))
      · rw [if_neg holds, if_neg holds]
        cases elseNode with
        | none => exact agree_pure nothing
        | some node => exact steps node (below node (by simp [inner]))
  | whileLoop line condition body =>
      have loops : simulation.Agree Eq
          (evaluateWhile (step condition) (step body) setting.rounds 0)
          (evaluateWhile (other (simulation.change condition)) (other (simulation.change body))
            second.rounds 0) := by
        rw [lawful.rounds]
        exact evaluateWhile_simulated lawful steps (below condition (by simp [inner]))
          (below body (by simp [inner])) setting.rounds 0
      exact loops.bind fun _ _ _ => (agree_note _ _).bind fun _ _ _ => agree_pure nothing
  | forLoop line element elements body =>
      have visible := lawful.names _ kept element (by simp [names])
      refine (steps elements (below elements (by simp [inner]))).bind fun value _ same => ?_
      obtain ⟨rfl, good⟩ := same
      cases value with
      | array values =>
          have bodyKept := below body (by simp [bodies])
          exact (evaluateFor_simulated steps visible bodyKept (lawful.stable.array.mp good)).bind
            fun _ _ _ => agree_pure nothing
      | _ => exact fail_simulated lawful kept .forLoop
  | bare line => exact fail_simulated lawful kept .bare

end Level

/-- Runs of a tree and of the changed tree go side by side if a changed node runs as the node that
is rebuilt over changed nodes. -/
theorem evaluate_simulated {simulation : Simulation} {setting second : Setting}
    (lawful : simulation.Lawful setting second)
    (rebuilds : ∀ depth node, (simulation.change node).evaluate second depth =
      (simulation.rebuilt node).evaluate second depth)
    (depth : Nat) {node : Node} (kept : simulation.kept node) :
    simulation.Agree simulation.Values (node.evaluate setting depth)
      ((simulation.change node).evaluate second depth) := by
  induction depth generalizing node with
  | zero => exact agree_throw lawful.overflow
  | succ depth ih =>
      rw [rebuilds]
      exact evaluateLevel_simulated lawful (fun child childKept => ih childKept) depth kept

end Node

end Scriptlet
