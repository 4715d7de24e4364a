import Scriptlet.Proofs.Evaluation.Frame

/-!
Parsed trees are grounded in their tokens. Every node is on the line of a token, and its names, its
operator, its form of assignment and its number are what some token says.
-/

namespace Scriptlet

namespace Node

def words : Node → List String
  | imports _ name | assign _ name _ _ | reference _ name | call _ name _ | forLoop _ name _ _ =>
      [name]
  | member _ moduleName _ name _ => [moduleName, name]
  | function _ name parameters _ => name :: parameters
  | _ => []

def Spelled (tokens : List Token) : Node → Prop
  | binary _ op _ _ => op.precedence?.isSome = true ∧ ∃ token ∈ tokens, token.operator? = some op
  | unary _ op _ => op.isUnary = true ∧ ∃ token ∈ tokens, token.operator? = some op
  | assign _ _ form _ => ∃ token ∈ tokens, Grammar.assignmentForm? token = some form
  | int _ value =>
      ∃ token ∈ tokens, token.kind = .integer ∧ token.payload = some (.integer value)
  | bare _ => False
  | _ => True

structure Grounded (tokens : List Token) (node : Node) : Prop where
  line : ∃ token ∈ tokens, token.line = node.line
  words : ∀ word ∈ node.words, ∃ token ∈ tokens, token.Named word
  spelled : node.Spelled tokens

end Node

namespace Grammar

open Node

theorem skip_subset (kind : Token.Kind) (text : Option String) (tokens : List Token) :
    skip kind text tokens ⊆ tokens := by
  unfold skip
  split
  · exact (List.tail_sublist tokens).subset
  · exact List.Subset.refl tokens

theorem skip_inside {tokens all : List Token} (inside : tokens ⊆ all) (kind : Token.Kind)
    (text : Option String) : skip kind text tokens ⊆ all :=
  List.Subset.trans (skip_subset kind text tokens) inside

/-- What a reading leaves was there before it. -/
theorem Reading.inside {phrase : Phrase} {before after all : List Token}
    (reading : Reading phrase before after) (inside : before ⊆ all) : after ⊆ all := by
  induction reading with
  | item _ _ _ ihNode ihNodes => exact ihNodes (skip_inside (ihNode inside) _ _)
  | parameter _ _ ih => exact ih (skip_inside (List.cons_subset.mp inside).2 _ _)
  | conditional _ _ _ ihTest ihBlock ihBranches =>
      exact ihBranches (ihBlock (ihTest (skip_inside inside _ _)))
  | _ => grind

def Phrase.Grounded (all : List Token) : Phrase → Prop
  | .primary node | .expression _ node | .condition node | .block node | .conditional node
  | .statement node => node.Everywhere (Node.Grounded all)
  | .climb _ left node =>
      left.Everywhere (Node.Grounded all) → node.Everywhere (Node.Grounded all)
  | .items _ nodes | .bracketed _ _ nodes | .statements nodes =>
      ∀ node ∈ nodes, node.Everywhere (Node.Grounded all)
  | .parameters names => ∀ name ∈ names, ∃ token ∈ all, token.Named name
  | .branches elseNode => ∀ node ∈ elseNode, node.Everywhere (Node.Grounded all)

theorem operator_of_payload {token : Token} {text : String} (kind : token.kind = .operator)
    (payload : token.payload = some (.text text)) :
    token.operator? = some (Operator.ofText text) := by
  simp [Token.operator?, Token.text?, kind, payload]

theorem operator_of_binary {token : Token} {op : Operator} {precedence : Nat}
    (found : binaryOperator? token = some (op, precedence)) :
    token.operator? = some op ∧ op.precedence?.isSome = true := by
  unfold binaryOperator? at found
  split at found
  next other spelled =>
    obtain ⟨_, ranked, same⟩ := Option.map_eq_some_iff.mp found
    cases same
    exact ⟨spelled, by simp [ranked]⟩
  next => cases found

theorem Reading.grounded {phrase : Phrase} {before after all : List Token}
    (reading : Reading phrase before after) (inside : before ⊆ all) : phrase.Grounded all := by
  induction reading with
  | @unary token text operand rest after kind payload isUnary _ ih =>
      obtain ⟨here, rest⟩ := List.cons_subset.mp inside
      refine everywhere_of_below ⟨⟨token, here, rfl⟩, by simp [words], isUnary, token, here, ?_⟩
        (List.forall_mem_singleton.mpr (ih rest)) (by simp [bodies])
      exact operator_of_payload kind payload
  | @array first elements rest after _ ih =>
      obtain ⟨here, _⟩ := List.cons_subset.mp inside
      exact everywhere_of_below ⟨⟨first, here, rfl⟩, by simp [words], trivial⟩ (ih inside)
        (by simp [bodies])
  | @int token value rest kind payload =>
      obtain ⟨here, _⟩ := List.cons_subset.mp inside
      exact everywhere_of_leaf
        ⟨⟨token, here, rfl⟩, by simp [words], token, here, kind, payload⟩ rfl rfl
  | @float token | @string token =>
      obtain ⟨here, _⟩ := List.cons_subset.mp inside
      exact everywhere_of_leaf ⟨⟨token, here, rfl⟩, by simp [words], trivial⟩ rfl rfl
  | @reference token name rest named =>
      obtain ⟨here, _⟩ := List.cons_subset.mp inside
      exact everywhere_of_leaf
        ⟨⟨token, here, rfl⟩, by simpa [words] using ⟨token, here, named⟩, trivial⟩ rfl rfl
  | @call token name arguments rest after named _ ih =>
      obtain ⟨here, rest⟩ := List.cons_subset.mp inside
      exact everywhere_of_below
        ⟨⟨token, here, rfl⟩, by simpa [words] using ⟨token, here, named⟩, trivial⟩ (ih rest)
        (by simp [bodies])
  | @member token colons callee moduleName name arguments rest after named _ calleeNamed _ ih =>
      simp only [List.cons_subset] at inside
      obtain ⟨here, _, calleeHere, rest⟩ := inside
      refine everywhere_of_below ⟨⟨token, here, rfl⟩, ?_, trivial⟩ (ih rest) (by simp [bodies])
      simpa [words] using ⟨⟨token, here, named⟩, callee, calleeHere, calleeNamed⟩
  | group _ _ _ ih => exact ih (List.cons_subset.mp inside).2
  | expression left _ ihLeft ihClimb => exact ihClimb (left.inside inside) (ihLeft inside)
  | settle => exact id
  | @fold floor precedence op token left right node rest middle after found _ right _ ihRight
      ihClimb =>
      obtain ⟨here, rest⟩ := List.cons_subset.mp inside
      obtain ⟨spelled, ranked⟩ := operator_of_binary found
      intro leftGrounded
      refine ihClimb (right.inside rest) (everywhere_of_below
        ⟨⟨token, here, rfl⟩, by simp [words], ranked, token, here, spelled⟩ ?_ (by simp [bodies]))
      simpa [Node.inner] using ⟨leftGrounded, ihRight rest⟩
  | noItem | noStatement => exact fun _ member => absurd member List.not_mem_nil
  | @item close node nodes before middle after _ first _ ihNode ihNodes =>
      have remaining := skip_inside (first.inside inside) .comma none
      exact List.forall_mem_cons.mpr ⟨ihNode inside, ihNodes remaining⟩
  | bracketed _ _ _ ih | condition _ _ _ ih => exact ih (List.cons_subset.mp inside).2
  | noParameter => exact fun _ member => absurd member List.not_mem_nil
  | @parameter token name names rest after named _ ih =>
      obtain ⟨here, rest⟩ := List.cons_subset.mp inside
      exact List.forall_mem_cons.mpr
        ⟨⟨token, here, named⟩, ih (skip_inside rest .comma none)⟩
  | statements _ first _ ihNode ihNodes =>
      exact List.forall_mem_cons.mpr ⟨ihNode inside, ihNodes (first.inside inside)⟩
  | @block opening first closing nodes _ after _ _ _ ih =>
      obtain ⟨_, rest⟩ := List.cons_subset.mp inside
      obtain ⟨here, _⟩ := List.cons_subset.mp rest
      exact everywhere_of_below ⟨⟨first, here, rfl⟩, by simp [words], trivial⟩ (ih rest)
        (by simp [bodies])
  | @conditional first test thenBlock elseNode rest middle last after condition block _ ihTest
      ihBlock ihBranches =>
      obtain ⟨here, _⟩ := List.cons_subset.mp inside
      have tested := skip_inside inside .keyword (some "if")
      have blocked := condition.inside tested
      have branched := ihBranches (block.inside blocked)
      refine everywhere_of_below ⟨⟨first, here, rfl⟩, by simp [words], trivial⟩ ?_
        (by simp [bodies])
      simpa [Node.inner] using ⟨ihTest tested, ihBlock blocked, branched⟩
  | noBranch =>
      intro node member
      cases member
  | elifBranch _ _ ih | elseBranch _ _ ih =>
      intro node member
      cases member
      exact ih (List.cons_subset.mp inside).2
  | ifStatement _ _ ih => exact ih inside
  | @whileStatement token test body rest middle after _ condition _ ihTest ihBody =>
      obtain ⟨here, rest⟩ := List.cons_subset.mp inside
      refine everywhere_of_below ⟨⟨token, here, rfl⟩, by simp [words], trivial⟩ ?_
        (by simp [bodies])
      simpa [Node.inner] using ⟨ihTest rest, ihBody (condition.inside rest)⟩
  | @forStatement token opening element closing name array body rest middle after _ _ named _
      condition _ ihArray ihBody =>
      simp only [List.cons_subset] at inside
      obtain ⟨here, _, elementHere, _, rest⟩ := inside
      exact everywhere_of_below
        ⟨⟨token, here, rfl⟩, by simpa [words] using ⟨element, elementHere, named⟩, trivial⟩
        (List.forall_mem_singleton.mpr (ihArray rest))
        (List.forall_mem_singleton.mpr (ihBody (condition.inside rest)))
  | @functionStatement token callee opening closing name names body rest middle after _ named _
      parameters _ _ ihNames ihBody =>
      simp only [List.cons_subset] at inside
      obtain ⟨_, here, _, rest⟩ := inside
      have blocked := (List.cons_subset.mp (parameters.inside rest)).2
      exact everywhere_of_below
        ⟨⟨callee, here, rfl⟩, List.forall_mem_cons.mpr ⟨⟨callee, here, named⟩, ihNames rest⟩,
          trivial⟩
        (by simp [Node.inner]) (List.forall_mem_singleton.mpr (ihBody blocked))
  | @returnNothing token =>
      obtain ⟨here, _⟩ := List.cons_subset.mp inside
      exact everywhere_of_leaf ⟨⟨token, here, rfl⟩, by simp [words], trivial⟩ rfl rfl
  | @returnValue token semicolon value rest after _ _ _ _ ih =>
      obtain ⟨here, rest⟩ := List.cons_subset.mp inside
      exact everywhere_of_below ⟨⟨token, here, rfl⟩, by simp [words], trivial⟩
        (List.forall_mem_singleton.mpr (ih rest)) (by simp [bodies])
  | @importStatement token moduleToken semicolon moduleName after _ named =>
      simp only [List.cons_subset] at inside
      obtain ⟨_, here, _⟩ := inside
      exact everywhere_of_leaf
        ⟨⟨moduleToken, here, rfl⟩, by simpa [words] using ⟨moduleToken, here, named⟩, trivial⟩ rfl rfl
  | @assignment token sign semicolon name form value rest after named found _ _ ih =>
      simp only [List.cons_subset] at inside
      obtain ⟨here, signHere, rest⟩ := inside
      exact everywhere_of_below
        ⟨⟨token, here, rfl⟩, by simpa [words] using ⟨token, here, named⟩, sign, signHere, found⟩
        (List.forall_mem_singleton.mpr (ih rest)) (by simp [bodies])
  | expressionStatement _ _ _ _ ih =>
      exact everywhere_of_below ⟨(ih inside).here.line, by simp [words], trivial⟩
        (List.forall_mem_singleton.mpr (ih inside)) (by simp [bodies])

end Grammar

/-- Below its root, a parsed tree is grounded in its tokens; the root has no names. -/
theorem Node.grounded_of_parse {limit : Nat} {tokens : List Token} {file : Option String}
    {tree : Node} (parsed : (Node.parse limit tokens file).1 = .ok tree) :
    ∃ nodes, tree = .sequence (Grammar.firstLine tokens) nodes ∧
      ∀ node ∈ nodes, node.Everywhere (Grounded tokens) := by
  obtain ⟨nodes, same, reading, _⟩ := reading_of_parse parsed
  exact ⟨nodes, same, reading.grounded (List.Subset.refl tokens)⟩

end Scriptlet
