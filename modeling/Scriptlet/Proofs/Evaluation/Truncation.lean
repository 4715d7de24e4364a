import Scriptlet.Proofs.Node.Pruning
import Scriptlet.Script

/-!
Statements that follow a return statement are dead. A tree can be cut after the first return
statement of every sequence, in the bodies of functions and loops as well, and runs as before.
-/

namespace Scriptlet

namespace Node

def isReturn : Node → Bool
  | returns .. => true
  | _ => false

def throughReturn : List Node → List Node
  | [] => []
  | node :: rest => if node.isReturn then [node] else node :: throughReturn rest

def truncated : Node → Node :=
  pruned throughReturn

theorem throughReturn_sublist (nodes : List Node) : (throughReturn nodes).Sublist nodes := by
  induction nodes with
  | nil => exact .slnil
  | cons node rest ih =>
      rw [throughReturn]
      by_cases ends : node.isReturn = true
      · rw [if_pos ends]
        exact (List.nil_sublist rest).cons_cons node
      · rw [if_neg ends]
        exact ih.cons_cons node

theorem not_isReturn_of_mem_dropLast {nodes : List Node} {node : Node}
    (member : node ∈ (throughReturn nodes).dropLast) : node.isReturn = false := by
  induction nodes with
  | nil => cases member
  | cons first rest ih =>
      rw [throughReturn] at member
      by_cases ends : first.isReturn = true
      · rw [if_pos ends] at member
        cases member
      · rw [if_neg ends] at member
        by_cases last : throughReturn rest = []
        · rw [last] at member
          cases member
        · rw [List.dropLast_cons_of_ne_nil last] at member
          rcases List.mem_cons.mp member with rfl | later
          · simpa using ends
          · exact ih later

theorem not_isReturn_of_truncated {tree node : Node} {line : Nat} {statements : List Node}
    (occurs : (sequence line statements).Occurs tree.truncated)
    (member : node ∈ statements.dropLast) : node.isReturn = false := by
  obtain ⟨uncut, rfl⟩ :=
    exists_cut_of_occurs (fun nodes => (throughReturn_sublist nodes).subset) occurs
  exact not_isReturn_of_mem_dropLast member

/-- A return statement that ends has returned. -/
theorem returned_of_evaluate {node : Node} (ends : node.isReturn = true) {setting : Setting}
    {depth : Nat} {machine reached : Machine} {result : Value}
    (evaluated : (node.evaluate setting depth).outcome machine = (.ok result, reached)) :
    reached.scope.returned = true := by
  cases depth with
  | zero => cases evaluated
  | succ depth =>
      cases node with
      | returns line value =>
          cases value with
          | none =>
              cases evaluated
              rfl
          | some value =>
              have opened : ((returns line (some value)).evaluate setting (depth + 1)).outcome
                  machine = Eval.andThen ((value.evaluate setting depth).outcome machine)
                    fun result => do
                      Eval.modifyScope fun scope =>
                        { scope with returnValue := result, returned := true }
                      return .invalid := Eval.outcome_bind _ _ _
              rw [opened] at evaluated
              generalize (value.evaluate setting depth).outcome machine = ended at evaluated
              rcases ended with ⟨_ | _, _⟩
              · cases evaluated
              · cases evaluated
                rfl
      | _ => cases ends

theorem evaluateSequence_throughReturn (setting : Setting) (depth : Nat) (nodes : List Node)
    (machine : Machine) :
    (evaluateSequence (evaluate setting depth) (throughReturn nodes)).outcome machine =
      (evaluateSequence (evaluate setting depth) nodes).outcome machine := by
  induction nodes generalizing machine with
  | nil => rfl
  | cons node rest ih =>
      rw [throughReturn]
      by_cases ends : node.isReturn = true
      · rw [if_pos ends, evaluateSequence, evaluateSequence, evaluateSequence, Eval.outcome_bind,
          Eval.outcome_bind]
        rcases evaluated : (node.evaluate setting depth).outcome machine with ⟨_ | _, reached⟩
        · rfl
        · have returned := returned_of_evaluate ends evaluated
          simp only [Eval.andThen, Eval.outcome_bind, Eval.outcome_scope, returned, if_true]
      · rw [if_neg ends, evaluateSequence, evaluateSequence, Eval.outcome_bind, Eval.outcome_bind]
        rcases (node.evaluate setting depth).outcome machine with ⟨_ | _, reached⟩
        · rfl
        · simp only [Eval.andThen, Eval.outcome_bind, Eval.outcome_scope]
          by_cases returned : reached.scope.returned = true
          · rw [if_pos returned, if_pos returned]
          · rw [if_neg returned, if_neg returned, ih]

theorem evaluate_throughReturn (setting : Setting) (depth line : Nat) (nodes : List Node) :
    (sequence line (throughReturn nodes)).evaluate setting depth =
      (sequence line nodes).evaluate setting depth := by
  cases depth with
  | zero => rfl
  | succ depth =>
      have same : evaluateSequence (evaluate setting depth) (throughReturn nodes) =
          evaluateSequence (evaluate setting depth) nodes :=
        funext (evaluateSequence_throughReturn setting depth nodes)
      rw [evaluate, evaluateLevel, same]
      rfl

def truncation : Simulation where
  change := truncated

theorem truncation_lawful (setting : Setting) : truncation.Lawful setting setting :=
  pruning_lawful throughReturn setting

theorem evaluate_truncated_eq_rebuilt (setting : Setting) (depth : Nat) (node : Node) :
    node.truncated.evaluate setting depth =
      (truncation.rebuilt node).evaluate setting depth := by
  rcases pruned_eq throughReturn node with ⟨line, statements, rfl, cut⟩ | rebuilds
  · rw [truncated, cut]
    exact evaluate_throughReturn setting depth line (statements.map truncated)
  · exact congrArg (evaluate setting depth) rebuilds

end Node

def Scope.truncated (scope : Scope) : Scope :=
  scope.mapBodies Node.truncated

open Node in
/-- In a truncated tree nothing follows a return statement in its sequence. It runs as the tree
itself does, with the same output, ending and scope, but for the bodies of functions, which are
truncated before and after. -/
theorem Script.evaluate_truncated (bounds : Bounds) (file : String) (tree : Node)
    (machine : Machine) :
    let original := evaluate bounds file tree machine
    let shortened := evaluate bounds file tree.truncated
      { machine with scope := machine.scope.truncated }
    (∀ line statements, (Node.sequence line statements).Occurs tree.truncated →
      ∀ node ∈ statements.dropLast, node.isReturn = false) ∧
    shortened.1 = original.1 ∧ shortened.2.output = original.2.output ∧
      shortened.2.scope = original.2.scope.truncated := by
  intro original shortened
  refine ⟨fun line statements occurs node => not_isReturn_of_truncated occurs, ?_⟩
  let setting : Setting := ⟨file, bounds.rounds⟩
  have scopes {scope other : Scope} := @Simulation.scopes_iff truncation scope other fun _ => rfl
  have agree := @evaluate_simulated _ _ _ (truncation_lawful setting)
    (evaluate_truncated_eq_rebuilt setting) bounds.limit tree trivial
  have ended := agree machine { machine with scope := machine.scope.truncated }
    ⟨scopes.mpr ⟨rfl, fun _ _ => trivial, machine.scope.every_true⟩, Array.empty_append.symm⟩
  obtain ⟨results, reached⟩ := ended.same (fun _ _ same => same.symm) fun _ => id
  have output := reached.output.trans Array.empty_append
  simp only [shortened, original, evaluate, Eval.run_eq_outcome]
  exact ⟨congrArg (Eval.ending file) results, output.symm, (scopes.mp reached.scopes).1⟩

end Scriptlet
