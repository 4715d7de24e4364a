import Scriptlet.Proofs.Evaluation.Vetting
import Scriptlet.Script

/-!
Variables that are not mentioned are irrelevant. A callee sees all variables of its caller and a
definition fails on every visible name. Still a variable that neither the tree nor a function in
scope reads, assigns, takes as a parameter or iterates with can be bound to anything or not at all.
-/

namespace Scriptlet

def Node.Omits (node : Node) (name : String) : Prop :=
  node.Everywhere fun part => name ∉ part.names

structure Function.Omits (function : Function) (name : String) : Prop where
  parameters : name ∉ function.parameters
  body : function.body.Omits name

namespace Scope

def Omits (scope : Scope) (name : String) : Prop :=
  ∀ entry ∈ scope.functions.entries, entry.2.Omits name

def without (scope : Scope) (name : String) : Scope :=
  { scope with values := ⟨scope.values.entries.filter fun entry => entry.1 != name⟩ }

theorem without_setVariable (scope : Scope) (name : String) (value : Value) :
    (scope.setVariable name value).without name = scope.without name := by
  have hidden := @Bindings.filter_put_of_hidden _ (· != name) name (by simp) value
    scope.values.entries
  rw [without, without, setVariable, Bindings.insert, hidden]

end Scope

namespace Node

theorem omits_of_passes {node : Node} {name : String} (levels : Nat)
    (passed : node.passes (fun part => decide (name ∉ part.names)) levels = true) :
    node.Omits name :=
  fun part occurs => of_decide_eq_true (everywhere_of_passes passed part occurs)

theorem Omits.not_assigns {node : Node} {name : String} (omits : node.Omits name) :
    ¬ node.Assigns name := by
  rintro ⟨line, form, value, occurs⟩
  have unnamed := omits _ occurs.occurs
  exact unnamed (by simp [names])

/-- A tree that does not assign a variable leaves it as it was. -/
theorem Omits.get_evaluate {node : Node} {name : String} (omits : node.Omits name)
    (setting : Setting) (depth : Nat) (machine : Machine) :
    ((node.evaluate setting depth).outcome machine).2.scope.values.get? name =
      machine.scope.values.get? name :=
  (evaluate_keeps_frames setting depth node machine).values name omits.not_assigns

end Node

namespace Simulation

/-- A run beside a run of the same tree from a scope that may have another value for a name. -/
def disregarding (name : String) : Simulation where
  change := id
  kept node := node.Omits name
  visible other := other != name

theorem disregarding_lawful (name : String) (setting : Setting) :
    (disregarding name).Lawful setting setting where
  stable := Value.stable_true
  rounds := rfl
  overflow := rfl
  unfinished := rfl
  below := Node.closed_everywhere _
  names node omits other member := by
    have apart : other ≠ name := by
      rintro rfl
      exact omits.here member
    exact bne_iff_ne.mpr apart
  faults node cause _ _ := by
    have same : (disregarding name).rebuilt node = node := node.rebuilt_id
    rw [same]
    rfl

theorem disregarding_scopes {name : String} {scope other : Scope} :
    (disregarding name).Scopes scope other ↔
      other.without name = scope.without name ∧ scope.Omits name := by
  have still : scope.mapBodies (disregarding name).change = scope := scope.mapBodies_id
  constructor
  · rintro ⟨values, functions, bodies, returnValue, returned, _⟩
    rw [still] at functions
    refine ⟨?_, fun entry member => ?_⟩
    · have same : other.values.entries.filter (fun entry => entry.1 != name) =
          scope.values.entries.filter fun entry => entry.1 != name := values
      rw [Scope.without, Scope.without, same, functions, returnValue, returned]
    · have admitted := bodies entry member
      refine ⟨fun parameter => ?_, admitted.body⟩
      exact bne_iff_ne.mp (admitted.parameters name parameter) rfl
  · rintro ⟨same, omits⟩
    refine ⟨?_, ?_, fun entry member => ⟨(omits entry member).body, ?_⟩, ?_, ?_, scope.every_true⟩
    · exact congrArg (·.values.entries) same
    · rw [still]
      exact congrArg (·.functions) same
    · intro parameter taken
      refine bne_iff_ne.mpr ?_
      rintro rfl
      exact (omits entry member).parameters taken
    · exact congrArg (·.returnValue) same
    · exact congrArg (·.returned) same

end Simulation

namespace Script

/-- A tree that does not mention a variable runs the same way from all scopes that differ in that
variable only. -/
theorem evaluate_of_without_eq (bounds : Bounds) (file : String) {tree : Node} {name : String}
    (omits : tree.Omits name) (machine other : Machine) (scopeOmits : machine.scope.Omits name)
    (scopes : other.scope.without name = machine.scope.without name)
    (output : other.output = machine.output) :
    let first := evaluate bounds file tree machine
    let second := evaluate bounds file tree other
    second.1 = first.1 ∧ second.2.output = first.2.output ∧
      second.2.scope.without name = first.2.scope.without name := by
  intro first second
  let setting : Setting := ⟨file, bounds.rounds⟩
  have rebuilds (depth : Nat) (node : Node) :
      ((Simulation.disregarding name).change node).evaluate setting depth =
        ((Simulation.disregarding name).rebuilt node).evaluate setting depth :=
    congrArg (Node.evaluate setting depth) node.rebuilt_id.symm
  have agree := Node.evaluate_simulated (Simulation.disregarding_lawful name setting) rebuilds
    bounds.limit omits
  have ended := agree machine other
    ⟨Simulation.disregarding_scopes.mpr ⟨scopes, scopeOmits⟩, output ▸ Array.empty_append.symm⟩
  obtain ⟨results, reached⟩ := ended.same (fun _ _ same => same.symm) fun _ => id
  simp only [first, second, evaluate, Eval.run_eq_outcome]
  exact ⟨congrArg (Eval.ending file) results, (reached.output.trans Array.empty_append).symm,
    (Simulation.disregarding_scopes.mp reached.scopes).1⟩

/-- If neither the tree nor a function in scope mentions a variable, binding it, or binding it to
another value, changes nothing but that binding: the tree prints the same, ends the same way and
leaves the same scope up to the variable, which is as it was before in each of the runs. -/
theorem evaluate_ignores_unmentioned (bounds : Bounds) (file : String) (tree : Node)
    (machine : Machine) (name : String) (value : Value) (omits : tree.Omits name)
    (scopeOmits : machine.scope.Omits name) :
    let plain := evaluate bounds file tree machine
    let bound := evaluate bounds file tree
      { machine with scope := machine.scope.setVariable name value }
    bound.1 = plain.1 ∧ bound.2.output = plain.2.output ∧
      bound.2.scope.without name = plain.2.scope.without name ∧
      plain.2.scope.values.get? name = machine.scope.values.get? name ∧
      bound.2.scope.values.get? name = some value := by
  intro plain bound
  obtain ⟨endings, outputs, scopes⟩ := evaluate_of_without_eq bounds file omits machine
    { machine with scope := machine.scope.setVariable name value } scopeOmits
    (machine.scope.without_setVariable name value) rfl
  refine ⟨endings, outputs, scopes, ?_, ?_⟩
  · simp only [plain, evaluate, Eval.run_eq_outcome]
    exact omits.get_evaluate _ _ _
  · simp only [bound, evaluate, Eval.run_eq_outcome]
    rw [omits.get_evaluate]
    simp [Scope.setVariable]

/-- `fun f(a) { b := a; return b + y; } x := f(1); for (e) ([x, x]) { io::println(g(e)); }` -/
def aloof : Node :=
  .sequence 1
    [.function 1 "f" ["a"] (.sequence 1
        [.assign 1 "b" .define (.reference 1 "a"),
          .returns 1 (some (.binary 1 .add (.reference 1 "b") (.reference 1 "y")))]),
      .assign 1 "x" .define (.call 1 "f" [.int 1 1]),
      .forLoop 1 "e" (.array 1 [.reference 1 "x", .reference 1 "x"])
        (.sequence 1 [.expression 1 (.member 1 "io" 1 "println" [.call 1 "g" [.reference 1 "e"]])])]

/-- A machine whose scope has `y`, `z` and a function `g` that mentions neither. -/
def aloofMachine : Machine where
  scope :=
    { values := ⟨[("z", .int 7), ("y", .int 2)]⟩
      functions := ⟨[("g", ⟨["n"], .sequence 1 [.returns 1 (some (.reference 1 "n"))]⟩)]⟩ }

theorem evaluate_aloof_ignores_unmentioned :
    aloof.Omits "z" ∧ aloofMachine.scope.Omits "z" ∧
    let plain := evaluate ⟨10, 8⟩ "main" aloof aloofMachine
    let bound := evaluate ⟨10, 8⟩ "main" aloof
      ⟨aloofMachine.scope.setVariable "z" (.string "new"), aloofMachine.output, aloofMachine.events⟩
    bound.2.output = #["dbg out: 3\n", "dbg out: 3\n"] ∧
      bound.2.scope.without "z" = plain.2.scope.without "z" ∧
      plain.2.scope.values.get? "z" = some (.int 7) ∧
      bound.2.scope.values.get? "z" = some (.string "new") := by
  have omits : aloof.Omits "z" := Node.omits_of_passes 10 (by decide)
  have scopeOmits : aloofMachine.scope.Omits "z" := by
    intro entry member
    rw [List.mem_singleton.mp member]
    exact ⟨by decide, Node.omits_of_passes 10 (by decide)⟩
  obtain ⟨_, outputs, scopes, kept, set⟩ :=
    evaluate_ignores_unmentioned ⟨10, 8⟩ "main" aloof aloofMachine "z" (.string "new") omits
      scopeOmits
  have printed : (evaluate ⟨10, 8⟩ "main" aloof aloofMachine).2.output =
      #["dbg out: 3\n", "dbg out: 3\n"] := by decide +kernel
  have before : aloofMachine.scope.values.get? "z" = some (.int 7) := rfl
  exact ⟨omits, scopeOmits, outputs.trans printed, scopes, kept.trans before, set⟩

end Script

end Scriptlet
