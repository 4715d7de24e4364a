import Scriptlet.Proofs.Evaluation.Simulation

/-!
Trees in which the statements of every sequence are cut down to some of them, in the bodies of
functions and loops as well.
-/

namespace Scriptlet.Node

mutual

/-- A tree in which the statements of every sequence are cut, those of the innermost first. -/
def pruned (cut : List Node → List Node) : Node → Node
  | sequence line statements => .sequence line (cut (prunedAll cut statements))
  | imports line moduleName => .imports line moduleName
  | assign line name form value => .assign line name form (pruned cut value)
  | binary line op left right => .binary line op (pruned cut left) (pruned cut right)
  | unary line op operand => .unary line op (pruned cut operand)
  | int line value => .int line value
  | float line value => .float line value
  | string line value => .string line value
  | reference line name => .reference line name
  | call line name arguments => .call line name (prunedAll cut arguments)
  | member line moduleName callLine name arguments =>
      .member line moduleName callLine name (prunedAll cut arguments)
  | array line elements => .array line (prunedAll cut elements)
  | returns line none => .returns line none
  | returns line (some value) => .returns line (some (pruned cut value))
  | function line name parameters body => .function line name parameters (pruned cut body)
  | expression line value => .expression line (pruned cut value)
  | conditional line condition thenBlock none =>
      .conditional line (pruned cut condition) (pruned cut thenBlock) none
  | conditional line condition thenBlock (some elseNode) =>
      .conditional line (pruned cut condition) (pruned cut thenBlock) (some (pruned cut elseNode))
  | whileLoop line condition body => .whileLoop line (pruned cut condition) (pruned cut body)
  | forLoop line element elements body =>
      .forLoop line element (pruned cut elements) (pruned cut body)
  | bare line => .bare line

def prunedAll (cut : List Node → List Node) : List Node → List Node
  | [] => []
  | node :: rest => pruned cut node :: prunedAll cut rest

end

theorem prunedAll_eq_map (cut : List Node → List Node) (nodes : List Node) :
    prunedAll cut nodes = nodes.map (pruned cut) := by
  induction nodes with
  | nil => rfl
  | cons node rest ih => rw [prunedAll, ih, List.map_cons]

/-- Only sequences are cut; every other node is rebuilt over what is cut below it. -/
theorem pruned_eq (cut : List Node → List Node) (node : Node) :
    (∃ line statements, node = .sequence line statements ∧
      node.pruned cut = .sequence line (cut (statements.map (pruned cut)))) ∨
    node.pruned cut = node.rebuilt id (pruned cut) := by
  cases node with
  | sequence line statements =>
      exact .inl ⟨line, statements, rfl, by rw [pruned, prunedAll_eq_map]⟩
  | call | member | array => exact .inr (by simp [pruned, rebuilt, prunedAll_eq_map])
  | returns line value => cases value <;> exact .inr rfl
  | conditional line condition thenBlock elseNode => cases elseNode <;> exact .inr rfl
  | _ => exact .inr rfl

section Cut

variable {cut : List Node → List Node} (fewer : ∀ nodes, cut nodes ⊆ nodes)

include fewer

/-- Every node of a pruned tree is a pruned node. -/
theorem exists_pruned_of_occurs {part tree : Node} (occurs : part.Occurs (tree.pruned cut)) :
    ∃ whole : Node, part = whole.pruned cut := by
  induction occurs using Relation.ReflTransGen.head_induction_on with
  | refl => exact ⟨tree, rfl⟩
  | @head part middle below _ ih =>
      obtain ⟨whole, rfl⟩ := ih
      rcases pruned_eq cut whole with ⟨line, statements, _, same⟩ | rebuilds
      · rw [same] at below
        rcases below with inside | inside
        · obtain ⟨statement, _, same⟩ := List.mem_map.mp (fewer _ inside)
          exact ⟨statement, same.symm⟩
        · cases inside
      · rw [rebuilds, inner_rebuilt, bodies_rebuilt] at below
        rcases below with inside | inside
        · obtain ⟨child, _, same⟩ := List.mem_map.mp inside
          exact ⟨child, same.symm⟩
        · obtain ⟨child, _, same⟩ := List.mem_map.mp inside
          exact ⟨child, same.symm⟩

/-- The statements of every sequence of a pruned tree are what a cut has left. -/
theorem exists_cut_of_occurs {tree : Node} {line : Nat} {statements : List Node}
    (occurs : (sequence line statements).Occurs (tree.pruned cut)) :
    ∃ uncut, statements = cut uncut := by
  obtain ⟨whole, same⟩ := exists_pruned_of_occurs fewer occurs
  rcases pruned_eq cut whole with ⟨_, parts, _, pruned⟩ | rebuilds
  · rw [pruned] at same
    cases same
    exact ⟨_, rfl⟩
  · cases whole with
    | sequence line parts =>
        cases same
        exact ⟨_, rfl⟩
    | _ =>
        rw [rebuilds] at same
        cases same

end Cut

def pruning (cut : List Node → List Node) : Simulation where
  change := pruned cut

theorem pruning_lawful (cut : List Node → List Node) (setting : Setting) :
    (pruning cut).Lawful setting setting where
  stable := Value.stable_true
  rounds := rfl
  overflow := rfl
  unfinished := rfl
  below _ _ _ _ := trivial
  names _ _ _ _ := rfl
  faults node cause _ _ := by
    rcases node.line_rebuilt id (pruned cut) with same | same
    · exact congrArg (fun line => Stop.fault ⟨cause, some line, some setting.file⟩) same.symm
    · exact congrArg (fun line => Stop.fault ⟨cause, some line, some setting.file⟩) same.symm

end Scriptlet.Node
