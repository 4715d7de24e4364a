import Scriptlet.Proofs.Evaluation.Simulation
import Scriptlet.Proofs.Grammar.Printing

/-!
Moving lines. A tree can be moved to other lines, and with it what holds trees or comes from their
lines: functions, scopes and stops.
-/

namespace Scriptlet

namespace Node

mutual

/-- A tree on other lines. A bare node stays where it is, since the text of its fault says where
that was. -/
def relined (place : Nat → Nat) : Node → Node
  | sequence line statements => .sequence (place line) (relinedAll place statements)
  | imports line moduleName => .imports (place line) moduleName
  | assign line name form value => .assign (place line) name form (relined place value)
  | binary line op left right => .binary (place line) op (relined place left) (relined place right)
  | unary line op operand => .unary (place line) op (relined place operand)
  | int line value => .int (place line) value
  | float line value => .float (place line) value
  | string line value => .string (place line) value
  | reference line name => .reference (place line) name
  | call line name arguments => .call (place line) name (relinedAll place arguments)
  | member line moduleName callLine name arguments =>
      .member (place line) moduleName (place callLine) name (relinedAll place arguments)
  | array line elements => .array (place line) (relinedAll place elements)
  | returns line none => .returns (place line) none
  | returns line (some value) => .returns (place line) (some (relined place value))
  | function line name parameters body =>
      .function (place line) name parameters (relined place body)
  | expression line value => .expression (place line) (relined place value)
  | conditional line test thenBlock none =>
      .conditional (place line) (relined place test) (relined place thenBlock) none
  | conditional line test thenBlock (some elseNode) =>
      .conditional (place line) (relined place test) (relined place thenBlock)
        (some (relined place elseNode))
  | whileLoop line test body => .whileLoop (place line) (relined place test) (relined place body)
  | forLoop line element elements body =>
      .forLoop (place line) element (relined place elements) (relined place body)
  | bare line => .bare line

def relinedAll (place : Nat → Nat) : List Node → List Node
  | [] => []
  | node :: rest => relined place node :: relinedAll place rest

end

theorem relined_conditional (place : Nat → Nat) (line : Nat) (test thenBlock : Node)
    (elseNode : Option Node) :
    (conditional line test thenBlock elseNode).relined place =
      .conditional (place line) (test.relined place) (thenBlock.relined place)
        (elseNode.map (relined place)) := by
  cases elseNode <;> rfl

theorem relinedAll_eq_map (place : Nat → Nat) (nodes : List Node) :
    relinedAll place nodes = nodes.map (relined place) := by
  induction nodes with
  | nil => rfl
  | cons node rest ih => rw [relinedAll, ih, List.map_cons]

theorem relined_eq_rebuilt (place : Nat → Nat) (node : Node) :
    node.relined place = node.rebuilt place (relined place) := by
  cases node with
  | sequence | call | member | array => simp [relined, rebuilt, relinedAll_eq_map]
  | returns line value => cases value <;> rfl
  | conditional line condition thenBlock elseNode => cases elseNode <;> rfl
  | _ => rfl

mutual

theorem relined_relined (first second : Nat → Nat) (node : Node) :
    (node.relined first).relined second = node.relined (second ∘ first) := by
  match node with
  | sequence .. | call .. | member .. | array .. => simp [relined, relinedAll_relinedAll]
  | imports .. | int .. | float .. | string .. | reference .. | bare _ => rfl
  | returns _ none => rfl
  | assign .. | unary .. | returns _ (some _) | function .. | expression .. =>
      simp [relined, relined_relined]
  | binary .. | whileLoop .. | forLoop .. => simp [relined, relined_relined]
  | conditional _ _ _ none | conditional _ _ _ (some _) => simp [relined, relined_relined]

theorem relinedAll_relinedAll (first second : Nat → Nat) (nodes : List Node) :
    relinedAll second (relinedAll first nodes) = relinedAll (second ∘ first) nodes := by
  match nodes with
  | [] => rfl
  | node :: rest => rw [relinedAll, relinedAll, relined_relined, relinedAll_relinedAll, relinedAll]

end

mutual

theorem unplaced_relined (place : Nat → Nat) (node : Node) :
    (node.relined place).unplaced = node.unplaced := by
  match node with
  | sequence .. | call .. | member .. | array .. => simp [relined, unplaced, unplacedAll_relinedAll]
  | imports .. | int .. | float .. | string .. | reference .. | bare _ => rfl
  | returns _ none => rfl
  | assign .. | unary .. | returns _ (some _) | function .. | expression .. =>
      simp [relined, unplaced, unplaced_relined]
  | binary .. | whileLoop .. | forLoop .. => simp [relined, unplaced, unplaced_relined]
  | conditional _ _ _ none | conditional _ _ _ (some _) =>
      simp [relined, unplaced, unplaced_relined]

theorem unplacedAll_relinedAll (place : Nat → Nat) (nodes : List Node) :
    unplacedAll (relinedAll place nodes) = unplacedAll nodes := by
  match nodes with
  | [] => rfl
  | node :: rest =>
      rw [relinedAll, unplacedAll, unplaced_relined, unplacedAll_relinedAll, unplacedAll]

end

def BareFree : Node → Prop :=
  Everywhere fun part => ∀ line, part ≠ .bare line

theorem bareFree_of_parse {limit : Nat} {tokens : List Token} {file : Option String} {tree : Node}
    (parsed : (Node.parse limit tokens file).1 = .ok tree) : tree.BareFree := by
  intro part occurs line same
  have bareParsed : part.Parsed := ⟨limit, tokens, file, tree, parsed, occurs⟩
  obtain ⟨role, formed⟩ := bareParsed.wellFormed
  induction formed with
  | elseIf _ ih | elseBlock _ ih => exact ih occurs same bareParsed
  | _ => cases same

mutual

/-- Without bare nodes, to be on no line is to be on line zero. -/
theorem relined_eq_unplaced (node : Node) (free : node.BareFree) :
    node.relined (fun _ => 0) = node.unplaced := by
  match node with
  | sequence _ parts | call _ _ parts | member _ _ _ _ parts | array _ parts =>
      have inside (part : Node) (member : part ∈ parts) : part.BareFree := free.below (.inl member)
      simp [relined, unplaced, relinedAll_eq_unplacedAll parts inside]
  | imports .. | int .. | float .. | string .. | reference .. | returns _ none => rfl
  | assign _ _ _ value | unary _ _ value | returns _ (some value) | expression _ value =>
      have inside : value.BareFree := free.below (.inl (by simp [inner]))
      simp [relined, unplaced, relined_eq_unplaced value inside]
  | function _ _ _ body =>
      have inside : body.BareFree := free.below (.inr (by simp [bodies]))
      simp [relined, unplaced, relined_eq_unplaced body inside]
  | binary _ _ left right | whileLoop _ left right =>
      have leftFree : left.BareFree := free.below (.inl (by simp [inner]))
      have rightFree : right.BareFree := free.below (.inl (by simp [inner]))
      simp [relined, unplaced, relined_eq_unplaced left leftFree,
        relined_eq_unplaced right rightFree]
  | forLoop _ _ elements body =>
      have elementsFree : elements.BareFree := free.below (.inl (by simp [inner]))
      have bodyFree : body.BareFree := free.below (.inr (by simp [bodies]))
      simp [relined, unplaced, relined_eq_unplaced elements elementsFree,
        relined_eq_unplaced body bodyFree]
  | conditional _ condition thenBlock none =>
      have conditionFree : condition.BareFree := free.below (.inl (by simp [inner]))
      have blockFree : thenBlock.BareFree := free.below (.inl (by simp [inner]))
      simp [relined, unplaced, relined_eq_unplaced condition conditionFree,
        relined_eq_unplaced thenBlock blockFree]
  | conditional _ condition thenBlock (some elseNode) =>
      have conditionFree : condition.BareFree := free.below (.inl (by simp [inner]))
      have blockFree : thenBlock.BareFree := free.below (.inl (by simp [inner]))
      have elseFree : elseNode.BareFree := free.below (.inl (by simp [inner]))
      simp [relined, unplaced, relined_eq_unplaced condition conditionFree,
        relined_eq_unplaced thenBlock blockFree, relined_eq_unplaced elseNode elseFree]
  | bare line => exact absurd rfl (free.here line)

theorem relinedAll_eq_unplacedAll (nodes : List Node) (free : ∀ node ∈ nodes, node.BareFree) :
    relinedAll (fun _ => 0) nodes = unplacedAll nodes := by
  match nodes with
  | [] => rfl
  | node :: rest =>
      obtain ⟨nodeFree, restFree⟩ := List.forall_mem_cons.mp free
      rw [relinedAll, unplacedAll, relined_eq_unplaced node nodeFree,
        relinedAll_eq_unplacedAll rest restFree]

end

theorem WellFormed.line_relined {role : Role} {node : Node} (formed : WellFormed role node)
    (place : Nat → Nat) : (node.relined place).line = place node.line := by
  induction formed with
  | @returns _ value _ _ => cases value <;> rfl
  | @conditional _ _ _ elseNode _ _ _ _ _ _ => cases elseNode <;> rfl
  | elseIf _ ih | elseBlock _ ih => exact ih
  | _ => rfl

end Node

namespace Function

def relined (place : Nat → Nat) (function : Function) : Function :=
  { function with body := function.body.relined place }

def unplaced (function : Function) : Function :=
  { function with body := function.body.unplaced }

end Function

namespace Scope

def relined (place : Nat → Nat) (scope : Scope) : Scope :=
  { scope with functions := scope.functions.map (Function.relined place) }

def unplaced (scope : Scope) : Scope :=
  { scope with functions := scope.functions.map Function.unplaced }

theorem relined_eq_unplaced {scope : Scope}
    (free : ∀ entry ∈ scope.functions.entries, entry.2.body.BareFree) :
    scope.relined (fun _ => 0) = scope.unplaced := by
  have same : scope.functions.map (Function.relined fun _ => 0) =
      scope.functions.map Function.unplaced := by
    refine congrArg Bindings.mk (List.map_congr_left fun entry member => ?_)
    simp only [Function.relined, Function.unplaced]
    rw [Node.relined_eq_unplaced _ (free entry member)]
  simp [relined, unplaced, same]

theorem unplaced_relined (place : Nat → Nat) (scope : Scope) :
    (scope.relined place).unplaced = scope.unplaced := by
  have same : Function.unplaced ∘ Function.relined place = Function.unplaced := by
    funext function
    simp [Function.relined, Function.unplaced, Node.unplaced_relined]
  simp [relined, unplaced, same]

end Scope

inductive Stop.Moved (place : Nat → Nat) : Stop → Stop → Prop
  | fault {cause : Cause} {line moved : Option Nat} {file : Option String}
      (lines : moved = line ∨ moved = line.map place) :
      Stop.Moved place (.fault ⟨cause, line, file⟩) (.fault ⟨cause, moved, file⟩)
  | overflow : Stop.Moved place .overflow .overflow
  | unfinished : Stop.Moved place .unfinished .unfinished

end Scriptlet
