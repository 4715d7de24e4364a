import Mathlib.Logic.Relation
import Scriptlet.Proofs.Evaluation.Visit
import Scriptlet.Proofs.Grammar.Form
import Scriptlet.Proofs.Scope

/-!
The frame law: which parts of a scope a tree can change can be read off the tree. Bodies of
functions and of for loops do not count, since they are evaluated in scopes of their own.
-/

namespace Scriptlet

namespace Node

/-- The trees right below a node that are evaluated in another scope than the node. -/
def bodies : Node → List Node
  | function _ _ _ body | forLoop _ _ _ body => [body]
  | _ => []

/-- Whether a tree occurs in another one outside the bodies of functions and of for loops. -/
def OccursOpenly : Node → Node → Prop :=
  Relation.ReflTransGen fun part whole => part ∈ whole.inner

def Occurs : Node → Node → Prop :=
  Relation.ReflTransGen fun part whole => part ∈ whole.inner ∨ part ∈ whole.bodies

def Everywhere (property : Node → Prop) (node : Node) : Prop :=
  ∀ part, Occurs part node → property part

def Assigns (node : Node) (name : String) : Prop :=
  ∃ line form value, OccursOpenly (.assign line name form value) node

def Declares (node : Node) (name : String) : Prop :=
  ∃ line parameters body, OccursOpenly (.function line name parameters body) node

def Returns (node : Node) : Prop :=
  ∃ line value, OccursOpenly (.returns line value) node

def Parsed (node : Node) : Prop :=
  ∃ limit tokens file tree, (Node.parse limit tokens file).1 = .ok tree ∧ Occurs node tree

def isExpression : Node → Bool
  | binary .. | unary .. | int .. | float .. | string .. | reference .. | call .. | member ..
  | array .. => true
  | _ => false

def isForLoop : Node → Bool
  | forLoop .. => true
  | _ => false

def OfExpressions (node : Node) : Prop :=
  ∀ part, OccursOpenly part node → part.isExpression = true

structure Frames (node : Node) (before after : Scope) : Prop where
  values : ∀ name, ¬ node.Assigns name → after.values.get? name = before.values.get? name
  functions : ∀ name, ¬ node.Declares name →
    after.functions.get? name = before.functions.get? name
  signal : ¬ node.Returns →
    after.returned = before.returned ∧ after.returnValue = before.returnValue

instance (node : Node) : IsPreorder Scope node.Frames where
  refl _ := ⟨fun _ _ => rfl, fun _ _ => rfl, fun _ => ⟨rfl, rfl⟩⟩
  trans _ _ _ head tail :=
    ⟨fun name free => (tail.values name free).trans (head.values name free),
      fun name free => (tail.functions name free).trans (head.functions name free),
      fun free => ⟨(tail.signal free).1.trans (head.signal free).1,
        (tail.signal free).2.trans (head.signal free).2⟩⟩

theorem OccursOpenly.occurs {part whole : Node} (openly : part.OccursOpenly whole) :
    part.Occurs whole :=
  Relation.ReflTransGen.mono (fun _ _ => .inl) _ _ openly

section Everywhere

variable {property : Node → Prop} {node : Node}

theorem Everywhere.here (everywhere : node.Everywhere property) : property node :=
  everywhere node .refl

theorem Everywhere.below (everywhere : node.Everywhere property) {child : Node}
    (below : child ∈ node.inner ∨ child ∈ node.bodies) : child.Everywhere property :=
  fun part occurs => everywhere part (occurs.tail below)

theorem everywhere_of_below (here : property node)
    (inside : ∀ child ∈ node.inner, child.Everywhere property)
    (apart : ∀ child ∈ node.bodies, child.Everywhere property) : node.Everywhere property := by
  intro part occurs
  rcases occurs.cases_tail with rfl | ⟨child, occurs, below | below⟩
  · exact here
  · exact inside child below part occurs
  · exact apart child below part occurs

theorem everywhere_of_leaf (here : property node) (inside : node.inner = [])
    (apart : node.bodies = []) : node.Everywhere property :=
  everywhere_of_below here (by simp [inside]) (by simp [apart])

/-- Tests all trees that occur in a tree which has no more than so many levels. -/
def passes (test : Node → Bool) : (levels : Nat) → Node → Bool
  | 0, _ => false
  | levels + 1, node => test node && (node.inner ++ node.bodies).all (passes test levels)

theorem everywhere_of_passes {test : Node → Bool} {levels : Nat}
    (passed : node.passes test levels = true) : node.Everywhere fun part => test part = true := by
  induction levels generalizing node with
  | zero => cases passed
  | succ levels ih =>
      simp only [passes, Bool.and_eq_true, List.all_eq_true, List.mem_append] at passed
      obtain ⟨here, below⟩ := passed
      exact everywhere_of_below here (fun child inside => ih (below child (.inl inside)))
        fun child apart => ih (below child (.inr apart))

end Everywhere

theorem Frames.of_inner {child node : Node} (inside : child ∈ node.inner) {before after : Scope}
    (frames : child.Frames before after) : node.Frames before after where
  values name free := by
    refine frames.values name ?_
    rintro ⟨line, form, value, occurs⟩
    exact free ⟨line, form, value, occurs.tail inside⟩
  functions name free := by
    refine frames.functions name ?_
    rintro ⟨line, parameters, body, occurs⟩
    exact free ⟨line, parameters, body, occurs.tail inside⟩
  signal free := by
    refine frames.signal ?_
    rintro ⟨line, value, occurs⟩
    exact free ⟨line, value, occurs.tail inside⟩

theorem Updates.frames {node : Node} {before after : Scope} (update : node.Updates before after) :
    node.Frames before after := by
  cases update with
  | @assign line target form value _ result =>
      refine ⟨fun name free => ?_, fun _ _ => rfl, fun _ => ⟨rfl, rfl⟩⟩
      have apart : target ≠ name := by
        rintro rfl
        exact free ⟨line, form, value, .refl⟩
      simp [Scope.setVariable, apart]
  | returnNothing => exact ⟨fun _ _ => rfl, fun _ _ => rfl, fun free => absurd ⟨_, _, .refl⟩ free⟩
  | returnValue => exact ⟨fun _ _ => rfl, fun _ _ => rfl, fun free => absurd ⟨_, _, .refl⟩ free⟩
  | @function line target parameters body =>
      refine ⟨fun _ _ => rfl, fun name free => ?_, fun _ => ⟨rfl, rfl⟩⟩
      have apart : target ≠ name := by
        rintro rfl
        exact free ⟨line, parameters, body, .refl⟩
      simp [Scope.setFunction, apart]

theorem evaluate_keeps_frames (setting : Setting) (depth : Nat) (node : Node) :
    (node.evaluate setting depth).Keeps node.Frames := by
  induction depth generalizing node with
  | zero => exact Eval.keeps_throw _
  | succ depth ih =>
      refine evaluateLevel_keeps (fun child inside machine => ?_) fun _ _ update => update.frames
      exact (ih child machine).of_inner inside

theorem WellFormed.inner_expression {node child : Node} (formed : WellFormed .expression node)
    (inside : child ∈ node.inner) : WellFormed .expression child := by
  cases formed with
  | int | float | string | reference => exact absurd inside List.not_mem_nil
  | unary _ operand =>
      cases List.mem_singleton.mp inside
      exact operand
  | binary _ left right =>
      simp only [inner, List.mem_cons, List.not_mem_nil, or_false] at inside
      rcases inside with rfl | rfl
      · exact left
      · exact right
  | call arguments | member arguments => exact arguments child inside
  | array elements => exact elements child inside

theorem WellFormed.ofExpressions {node : Node} (formed : WellFormed .expression node) :
    node.OfExpressions := by
  intro part openly
  induction openly with
  | refl => cases formed <;> rfl
  | tail _ inside ih => exact ih (formed.inner_expression inside)

/-- Expressions make no update, and neither does any part of them. -/
theorem OfExpressions.evaluate_keeps {node : Node} (expressions : node.OfExpressions)
    (setting : Setting) (depth : Nat) : (node.evaluate setting depth).Keeps Eq := by
  induction depth generalizing node with
  | zero => exact Eval.keeps_throw _
  | succ depth ih =>
      refine evaluateLevel_keeps (fun child inside => ih fun part openly => ?_) ?_
      · exact expressions part (openly.tail inside)
      · intro before after update
        have expression := expressions node .refl
        cases update <;> cases expression

theorem evaluate_expression_keeps (setting : Setting) (depth : Nat) {node : Node}
    (formed : WellFormed .expression node) : (node.evaluate setting depth).Keeps Eq :=
  formed.ofExpressions.evaluate_keeps setting depth

theorem evaluate_forLoop_keeps (setting : Setting) (depth line : Nat) (element : String)
    {elements : Node} (body : Node) (formed : WellFormed .expression elements) :
    ((forLoop line element elements body).evaluate setting depth).Keeps Eq := by
  cases depth with
  | zero => exact Eval.keeps_throw _
  | succ depth =>
      refine evaluateLevel_keeps (fun child inside => ?_) ?_
      · cases List.mem_singleton.mp inside
        exact evaluate_expression_keeps setting depth formed
      · intro before after update
        cases update

theorem WellFormed.of_below {role : Role} {node child : Node} (formed : WellFormed role node)
    (below : child ∈ node.inner ∨ child ∈ node.bodies) : ∃ lower, WellFormed lower child := by
  induction formed with
  | int | float | string | reference | imports => simp [inner, bodies] at below
  | unary _ operand =>
      simp only [inner, bodies, List.mem_singleton, List.not_mem_nil, or_false] at below
      exact ⟨_, below ▸ operand⟩
  | binary _ left right =>
      simp only [inner, bodies, List.mem_cons, List.not_mem_nil, or_false] at below
      rcases below with rfl | rfl
      · exact ⟨_, left⟩
      · exact ⟨_, right⟩
  | call parts | member parts | array parts | sequence parts =>
      simp only [inner, bodies, List.not_mem_nil, or_false] at below
      exact ⟨_, parts child below⟩
  | assign _ value | expression value =>
      simp only [inner, bodies, List.mem_singleton, List.not_mem_nil, or_false] at below
      exact ⟨_, below ▸ value⟩
  | returns value =>
      simp only [inner, bodies, Option.mem_toList, List.not_mem_nil, or_false] at below
      exact ⟨_, value child below⟩
  | function body =>
      simp only [inner, bodies, List.mem_singleton, List.not_mem_nil, false_or] at below
      exact ⟨_, below ▸ body⟩
  | conditional test thenBlock branch =>
      simp only [inner, bodies, List.mem_cons, Option.mem_toList, List.not_mem_nil, or_false]
        at below
      rcases below with rfl | rfl | below
      · exact ⟨_, test⟩
      · exact ⟨_, thenBlock⟩
      · exact ⟨_, branch child below⟩
  | whileLoop test body =>
      simp only [inner, bodies, List.mem_cons, List.not_mem_nil, or_false] at below
      rcases below with rfl | rfl
      · exact ⟨_, test⟩
      · exact ⟨_, body⟩
  | forLoop elements body =>
      simp only [inner, bodies, List.mem_singleton] at below
      rcases below with rfl | rfl
      · exact ⟨_, elements⟩
      · exact ⟨_, body⟩
  | elseIf _ ih | elseBlock _ ih => exact ih below

theorem Parsed.wellFormed {node : Node} (parsed : node.Parsed) :
    ∃ role, WellFormed role node := by
  obtain ⟨limit, tokens, file, tree, accepted, occurs⟩ := parsed
  induction occurs using Relation.ReflTransGen.head_induction_on with
  | refl => exact ⟨_, wellFormed_of_parse accepted⟩
  | head below _ ih =>
      obtain ⟨role, formed⟩ := ih
      exact formed.of_below below

theorem WellFormed.of_isExpression {role : Role} {node : Node} (formed : WellFormed role node)
    (kind : node.isExpression = true) : WellFormed .expression node := by
  induction formed with
  | elseBlock _ ih | elseIf _ ih => exact ih kind
  | imports | assign | returns | function | expression | conditional | whileLoop | forLoop
  | sequence => cases kind
  | int => exact .int
  | float => exact .float
  | string => exact .string
  | reference => exact .reference
  | unary isUnary operand => exact .unary isUnary operand
  | binary ranked left right => exact .binary ranked left right
  | call arguments => exact .call arguments
  | member arguments => exact .member arguments
  | array elements => exact .array elements

theorem Parsed.evaluate_keeps {node : Node} (parsed : node.Parsed)
    (kind : node.isExpression = true ∨ node.isForLoop = true) (setting : Setting) (depth : Nat) :
    (node.evaluate setting depth).Keeps Eq := by
  obtain ⟨role, formed⟩ := parsed.wellFormed
  rcases kind with expression | loop
  · exact evaluate_expression_keeps setting depth (formed.of_isExpression expression)
  · cases formed with
    | forLoop elements _ => exact evaluate_forLoop_keeps setting depth _ _ _ elements
    | elseBlock block =>
        cases block
        cases loop
    | _ => cases loop

/-- However an evaluation ends, it has changed no variable, function or return signal that the
tree does not assign, declare or set outside the bodies of functions and for loops. Expressions and
for loops of parsed trees leave the whole scope as it was. -/
theorem evaluate_changes_own_targets (setting : Setting) (depth : Nat) (node : Node)
    (machine : Machine) :
    (∀ name, ¬ node.Assigns name →
      ((node.evaluate setting depth).outcome machine).2.scope.values.get? name =
        machine.scope.values.get? name) ∧
    (∀ name, ¬ node.Declares name →
      ((node.evaluate setting depth).outcome machine).2.scope.functions.get? name =
        machine.scope.functions.get? name) ∧
    (¬ node.Returns →
      ((node.evaluate setting depth).outcome machine).2.scope.returned = machine.scope.returned ∧
      ((node.evaluate setting depth).outcome machine).2.scope.returnValue =
        machine.scope.returnValue) ∧
    (node.Parsed → node.isExpression = true ∨ node.isForLoop = true →
      ((node.evaluate setting depth).outcome machine).2.scope = machine.scope) := by
  have frames := evaluate_keeps_frames setting depth node machine
  refine ⟨frames.values, frames.functions, frames.signal, fun parsed kind => ?_⟩
  exact (parsed.evaluate_keeps kind setting depth machine).symm

/-- The tokens of `for (e) ([1]) { x = f(e); }`. -/
def rebindingTokens : List Token :=
  [⟨.keyword, some (.text "for"), 1⟩, ⟨.openParen, none, 1⟩, ⟨.identifier, some (.text "e"), 1⟩,
    ⟨.closeParen, none, 1⟩, ⟨.openParen, none, 1⟩, ⟨.openBracket, none, 1⟩,
    ⟨.integer, some (.integer 1), 1⟩, ⟨.closeBracket, none, 1⟩, ⟨.closeParen, none, 1⟩,
    ⟨.openBrace, none, 1⟩, ⟨.identifier, some (.text "x"), 1⟩, ⟨.assign, none, 1⟩,
    ⟨.identifier, some (.text "f"), 1⟩, ⟨.openParen, none, 1⟩,
    ⟨.identifier, some (.text "e"), 1⟩, ⟨.closeParen, none, 1⟩, ⟨.semicolon, none, 1⟩,
    ⟨.closeBrace, none, 1⟩]

def rebinding : Node :=
  .forLoop 1 "e" (.array 1 [.int 1 1])
    (.sequence 1 [.assign 1 "x" .replace (.call 1 "f" [.reference 1 "e"])])

/-- A scope in which `f` rebinds `x` and returns it. -/
def rebindingScope : Scope where
  values := ⟨[("x", .int 7)]⟩
  functions := ⟨[("f", ⟨["y"], .sequence 1
    [.assign 1 "x" (.compound "+=") (.reference 1 "y"),
      .returns 1 (some (.reference 1 "x"))]⟩)]⟩

theorem parsed_rebinding : rebinding.Parsed :=
  ⟨100, rebindingTokens, none, .sequence 1 [rebinding], rfl, .single (.inl (by simp [inner]))⟩

theorem not_assigns_rebinding (name : String) : ¬ rebinding.Assigns name := by
  rintro ⟨line, form, value, occurs⟩
  rcases occurs.cases_tail with same | ⟨elements, occurs, inside⟩
  · cases same
  · cases List.mem_singleton.mp inside
    rcases occurs.cases_tail with same | ⟨literal, occurs, inside⟩
    · cases same
    · cases List.mem_singleton.mp inside
      rcases occurs.cases_tail with same | ⟨_, _, inside⟩
      · cases same
      · cases inside

theorem evaluate_rebinding_changes_nothing :
    rebinding.Parsed ∧ ¬ rebinding.Assigns "x" ∧
    ((rebinding.evaluate ⟨"<stdin>", 8⟩ 10).outcome { scope := rebindingScope }).2.scope.values.get?
      "x" = some (.int 7) ∧
    ((rebinding.evaluate ⟨"<stdin>", 8⟩ 10).outcome { scope := rebindingScope }).2.scope =
      rebindingScope := by
  obtain ⟨values, _, _, unchanged⟩ := evaluate_changes_own_targets ⟨"<stdin>", 8⟩ 10 rebinding
    { scope := rebindingScope }
  exact ⟨parsed_rebinding, not_assigns_rebinding "x", values "x" (not_assigns_rebinding "x"),
    unchanged parsed_rebinding (.inr rfl)⟩

end Node

end Scriptlet
