import Scriptlet.Proofs.Grammar.Reading

/-!
Every reading is delivered: a rule that may nest deep enough for the tokens ahead makes what the
reading says. Two levels for each token are enough, and a few more.
-/

namespace Scriptlet.Grammar

open Scriptlet.Parser

/-- The end of the rule for conditionals, after the first block. -/
def branching (depth line : Nat) (test thenBlock : Node) : Parser Node := do
  if ← accept .keyword (some "elif") then
    let elseNode ← conditional depth
    return .conditional line test thenBlock (some elseNode)
  else if ← accept .keyword (some "else") then
    let elseNode ← block depth
    return .conditional line test thenBlock (some elseNode)
  else return .conditional line test thenBlock none

theorem conditional_succ (depth : Nat) :
    conditional (depth + 1) = (do
      let line ← currentLine
      let _ ← accept .keyword (some "if")
      let test ← condition (expression depth 0)
      let thenBlock ← block depth
      branching depth line test thenBlock) := by
  rw [conditional]
  rfl

def Phrase.Delivered : Phrase → List Token → List Token → Prop
  | primary node, before, after => ∀ depth, 2 * before.length + 1 ≤ depth →
      (Grammar.primary depth).Delivers before node after
  | expression floor node, before, after => ∀ depth, 2 * before.length + 2 ≤ depth →
      (Grammar.expression depth floor).Delivers before node after
  | climb floor left node, before, after => ∀ depth (rounds : List Token),
      2 * before.length ≤ depth → before.length ≤ rounds.length →
      (Grammar.climb (Grammar.expression depth) floor rounds left).Delivers before node after
  | items close nodes, before, after => ∀ depth (rounds : List Token),
      2 * before.length + 2 ≤ depth → before.length ≤ rounds.length →
      (itemsUntil close (commaItem (Grammar.expression depth 0)) rounds).Delivers
        before nodes after
  | bracketed opening close nodes, before, after => ∀ depth first, 2 * before.length ≤ depth →
      before.head? = some first →
      (Grammar.bracketed opening close (Grammar.expression depth 0)).Delivers before
        (first.line, nodes) after
  | condition node, before, after => ∀ depth, 2 * before.length ≤ depth →
      (Grammar.condition (Grammar.expression depth 0)).Delivers before node after
  | parameters names, before, after => ∀ rounds : List Token, before.length ≤ rounds.length →
      (Grammar.parameters rounds).Delivers before names after
  | statements nodes, before, after => ∀ depth (rounds : List Token),
      2 * before.length + 3 ≤ depth → before.length ≤ rounds.length →
      (itemsUntil .closeBrace (Grammar.statement depth) rounds).Delivers before nodes after
  | block node, before, after => ∀ depth, 2 * before.length + 3 ≤ depth →
      (Grammar.block depth).Delivers before node after
  | conditional node, before, after => ∀ depth, 2 * before.length + 1 ≤ depth →
      (Grammar.conditional depth).Delivers before node after
  | branches elseNode, before, after => ∀ depth line test thenBlock,
      2 * before.length + 3 ≤ depth →
      (branching depth line test thenBlock).Delivers before
        (.conditional line test thenBlock elseNode) after
  | statement node, before, after => ∀ depth, 2 * before.length + 3 ≤ depth →
      (Grammar.statement depth).Delivers before node after

theorem expectName_delivers {token : Token} {name : String} (named : token.Named name)
    (rest : List Token) : expectName.Delivers (token :: rest) (name, token.line) rest := by
  unfold expectName
  refine (expect_delivers named.1 rest).bind ?_
  rw [Token.text_eq_some.mpr named.2]
  exact delivers_pure _ _

theorem currentLine_delivers (token : Token) (rest : List Token) :
    currentLine.Delivers (token :: rest) token.line (token :: rest) :=
  (peek_delivers _).bind (delivers_pure _ _)

theorem unary_delivered {token : Token} {text : String} {operand : Node}
    {rest after : List Token} (kind : token.kind = .operator)
    (payload : token.payload = some (.text text)) (isUnary : (Operator.ofText text).isUnary = true)
    (operandDelivered :
      (Phrase.expression Operator.unaryPrecedence operand).Delivered rest after) :
    (Phrase.primary (.unary token.line (.ofText text) operand)).Delivered (token :: rest)
      after := by
  intro depth enough
  simp only [List.length_cons] at enough
  cases depth with
  | zero => omega
  | succ depth =>
      rw [primary]
      refine (peek_delivers _).bind ?_
      simp only [List.head?_cons, kind, payload, isUnary, if_true]
      refine (advance_delivers _ _).bind ?_
      exact (operandDelivered depth (by omega)).bind (delivers_pure _ _)

theorem array_delivered {first : Token} {elements : List Node} {rest after : List Token}
    (kind : first.kind = .openBracket)
    (bracketedDelivered :
      (Phrase.bracketed .openBracket .closeBracket elements).Delivered (first :: rest) after) :
    (Phrase.primary (.array first.line elements)).Delivered (first :: rest) after := by
  intro depth enough
  cases depth with
  | zero => omega
  | succ depth =>
      rw [primary]
      refine (peek_delivers _).bind ?_
      simp only [List.head?_cons, kind, arrayLiteral]
      exact (bracketedDelivered depth first (by omega) rfl).bind (delivers_pure _ _)

theorem reference_delivered {token : Token} {name : String} {rest : List Token}
    (named : token.Named name) (separate : Separate rest) :
    (Phrase.primary (.reference token.line name)).Delivered (token :: rest) rest := by
  intro depth enough
  cases depth with
  | zero => omega
  | succ depth =>
      rw [primary]
      refine (peek_delivers _).bind ?_
      simp only [List.head?_cons, named.1, named.2]
      refine (nextKind_delivers _).bind ?_
      have plain : Delivers (do advance; return Node.reference token.line name)
          (token :: rest) (.reference token.line name) rest :=
        (advance_delivers _ _).bind (delivers_pure _ _)
      cases rest with
      | nil => exact plain
      | cons after rest =>
          obtain ⟨notParen, notColons⟩ := separate after rfl
          simp only [List.getElem?_cons_succ, List.getElem?_cons_zero, Option.map_some]
          split
          next same => exact absurd (Option.some.inj same) notParen
          next same => exact absurd (Option.some.inj same) notColons
          next => exact plain

theorem call_delivered {token : Token} {name : String} {arguments : List Node}
    {opening : Token} {rest after : List Token} (named : token.Named name)
    (kind : opening.kind = .openParen)
    (bracketedDelivered :
      (Phrase.bracketed .openParen .closeParen arguments).Delivered (opening :: rest) after) :
    (Phrase.primary (.call token.line name arguments)).Delivered (token :: opening :: rest)
      after := by
  intro depth enough
  simp only [List.length_cons] at enough
  cases depth with
  | zero => omega
  | succ depth =>
      rw [primary]
      refine (peek_delivers _).bind ?_
      simp only [List.head?_cons, named.1, named.2]
      refine (nextKind_delivers _).bind ?_
      simp only [List.getElem?_cons_succ, List.getElem?_cons_zero, Option.map_some, kind,
        functionCall]
      refine (expectName_delivers named _).bind ?_
      refine (bracketedDelivered depth opening ?_ rfl).bind (delivers_pure _ _)
      simp only [List.length_cons]
      omega

theorem member_delivered {token colons callee opening : Token} {moduleName name : String}
    {arguments : List Node} {rest after : List Token} (named : token.Named moduleName)
    (kind : colons.kind = .doubleColon) (calleeNamed : callee.Named name)
    (bracketedDelivered :
      (Phrase.bracketed .openParen .closeParen arguments).Delivered (opening :: rest) after) :
    (Phrase.primary (.member token.line moduleName callee.line name arguments)).Delivered
      (token :: colons :: callee :: opening :: rest) after := by
  intro depth enough
  simp only [List.length_cons] at enough
  cases depth with
  | zero => omega
  | succ depth =>
      rw [primary]
      refine (peek_delivers _).bind ?_
      simp only [List.head?_cons, named.1, named.2]
      refine (nextKind_delivers _).bind ?_
      simp only [List.getElem?_cons_succ, List.getElem?_cons_zero, Option.map_some, kind,
        moduleAccess]
      refine (expectName_delivers named _).bind ?_
      refine (accept_delivers _ _ _).bind ?_
      have skipped : skip .doubleColon none (colons :: callee :: opening :: rest) =
          callee :: opening :: rest := by
        simp [skip, leads, Token.fits, kind]
      rw [skipped]
      refine (expectName_delivers calleeNamed _).bind ?_
      refine (bracketedDelivered depth opening ?_ rfl).bind (delivers_pure _ _)
      simp only [List.length_cons]
      omega

theorem group_delivered {opening closing : Token} {node : Node} {inner after : List Token}
    (openingKind : opening.kind = .openParen) (closingKind : closing.kind = .closeParen)
    (nodeDelivered : (Phrase.expression 0 node).Delivered inner (closing :: after)) :
    (Phrase.primary node).Delivered (opening :: inner) after := by
  intro depth enough
  simp only [List.length_cons] at enough
  cases depth with
  | zero => omega
  | succ depth =>
      rw [primary]
      refine (peek_delivers _).bind ?_
      simp only [List.head?_cons, openingKind]
      refine (advance_delivers _ _).bind ?_
      refine (nodeDelivered depth (by omega)).bind ?_
      exact (expect_delivers closingKind _).bind (delivers_pure _ _)

theorem expression_delivered {floor : Nat} {left node : Node}
    {before middle after : List Token} (shorter : middle.length ≤ before.length)
    (leftDelivered : (Phrase.primary left).Delivered before middle)
    (climbDelivered : (Phrase.climb floor left node).Delivered middle after) :
    (Phrase.expression floor node).Delivered before after := by
  intro depth enough
  cases depth with
  | zero => omega
  | succ depth =>
      rw [expression]
      refine (leftDelivered depth (by omega)).bind ?_
      refine (remaining_delivers _).bind ?_
      exact climbDelivered depth middle (by omega) (Nat.le_refl _)

theorem settle_delivered {floor : Nat} {left : Node} {tokens : List Token}
    (settled : Settled floor tokens) :
    (Phrase.climb floor left left).Delivered tokens tokens := by
  intro depth rounds _ _
  cases rounds with
  | nil =>
      rw [climb]
      exact delivers_pure _ _
  | cons _ rounds =>
      rw [climb]
      refine (peek_delivers _).bind ?_
      cases found : tokens.head? with
      | none => exact delivers_pure _ _
      | some token =>
          dsimp only
          cases operator : binaryOperator? token with
          | none => exact delivers_pure _ _
          | some pair =>
              have below := settled token pair.1 pair.2 found operator
              simp only [below, if_true]
              exact delivers_pure _ _

theorem fold_delivered {floor precedence : Nat} {op : Operator} {token : Token}
    {left right node : Node} {rest middle after : List Token}
    (operator : binaryOperator? token = some (op, precedence)) (above : floor ≤ precedence)
    (shorter : middle.length ≤ rest.length)
    (rightDelivered : (Phrase.expression precedence right).Delivered rest middle)
    (climbDelivered :
      (Phrase.climb floor (.binary token.line op left right) node).Delivered middle after) :
    (Phrase.climb floor left node).Delivered (token :: rest) after := by
  intro depth rounds enough rounded
  simp only [List.length_cons] at enough rounded
  cases rounds with
  | nil => simp at rounded
  | cons _ rounds =>
      simp only [List.length_cons] at rounded
      rw [climb]
      refine (peek_delivers _).bind ?_
      simp only [List.head?_cons, operator, Nat.not_lt.mpr above, if_false]
      refine (advance_delivers _ _).bind ?_
      refine (rightDelivered depth (by omega)).bind ?_
      exact climbDelivered depth rounds (by omega) (by omega)

theorem itemsUntil_delivers_nil {close : Token.Kind} {item : Parser Node} {tokens : List Token}
    (stopped : tokens = [] ∨ leads close none tokens = true) (rounds : List Token) :
    (itemsUntil close item rounds).Delivers tokens [] tokens := by
  cases rounds with
  | nil =>
      rw [itemsUntil]
      exact delivers_pure _ _
  | cons _ rounds =>
      rw [itemsUntil]
      refine (peek_delivers _).bind ?_
      cases tokens with
      | nil => exact delivers_pure _ _
      | cons token rest =>
          have kind : token.kind = close := by
            simpa [leads, Token.fits] using stopped
          simp only [List.head?_cons, kind, beq_self_eq_true, if_true]
          exact delivers_pure _ _

theorem itemsUntil_delivers_cons {close : Token.Kind} {item : Parser Node} {node : Node}
    {nodes : List Node} {first : Token} {rest middle after : List Token} {rounds : List Token}
    (another : leads close none (first :: rest) = false)
    (itemDelivers : item.Delivers (first :: rest) node middle)
    (others : (itemsUntil close item rounds).Delivers middle nodes after) (round : Token) :
    (itemsUntil close item (round :: rounds)).Delivers (first :: rest) (node :: nodes) after := by
  rw [itemsUntil]
  refine (peek_delivers _).bind ?_
  have kind : ¬ (first.kind == close) = true := by
    simpa [leads, Token.fits] using another
  simp only [List.head?_cons, kind]
  exact itemDelivers.bind (others.bind (delivers_pure _ _))

theorem item_delivered {close : Token.Kind} {node : Node} {nodes : List Node} {first : Token}
    {rest middle after : List Token} (another : leads close none (first :: rest) = false)
    (shorter : middle.length ≤ rest.length)
    (nodeDelivered : (Phrase.expression 0 node).Delivered (first :: rest) middle)
    (othersDelivered : (Phrase.items close nodes).Delivered (skip .comma none middle) after) :
    (Phrase.items close (node :: nodes)).Delivered (first :: rest) after := by
  intro depth rounds enough rounded
  have skipped := length_skip_le .comma none middle
  cases rounds with
  | nil => simp at rounded
  | cons round rounds =>
      have itemDelivers : (commaItem (expression depth 0)).Delivers (first :: rest) node
          (skip .comma none middle) :=
        (nodeDelivered depth enough).bind ((accept_delivers _ _ _).bind (delivers_pure _ _))
      simp only [List.length_cons] at enough rounded
      exact itemsUntil_delivers_cons another itemDelivers
        (othersDelivered depth rounds (by omega) (by omega)) round

theorem statements_delivered {node : Node} {nodes : List Node} {first : Token}
    {rest middle after : List Token} (another : leads .closeBrace none (first :: rest) = false)
    (shorter : middle.length ≤ rest.length)
    (nodeDelivered : (Phrase.statement node).Delivered (first :: rest) middle)
    (othersDelivered : (Phrase.statements nodes).Delivered middle after) :
    (Phrase.statements (node :: nodes)).Delivered (first :: rest) after := by
  intro depth rounds enough rounded
  cases rounds with
  | nil => simp at rounded
  | cons round rounds =>
      have itemDelivers := nodeDelivered depth enough
      simp only [List.length_cons] at enough rounded
      exact itemsUntil_delivers_cons another itemDelivers
        (othersDelivered depth rounds (by omega) (by omega)) round

theorem bracketed_delivered {opening close : Token.Kind} {first last : Token}
    {nodes : List Node} {inner after : List Token} (openingKind : first.kind = opening)
    (closingKind : last.kind = close)
    (itemsDelivered : (Phrase.items close nodes).Delivered inner (last :: after)) :
    (Phrase.bracketed opening close nodes).Delivered (first :: inner) after := by
  intro depth token enough head
  simp only [List.length_cons] at enough
  cases head
  unfold bracketed
  refine (expect_delivers openingKind _).bind ?_
  refine (remaining_delivers _).bind ?_
  refine (itemsDelivered depth inner (by omega) (Nat.le_refl _)).bind ?_
  exact (expect_delivers closingKind _).bind (delivers_pure _ _)

theorem condition_delivered {opening closing : Token} {node : Node} {inner after : List Token}
    (openingKind : opening.kind = .openParen) (closingKind : closing.kind = .closeParen)
    (nodeDelivered : (Phrase.expression 0 node).Delivered inner (closing :: after)) :
    (Phrase.condition node).Delivered (opening :: inner) after := by
  intro depth enough
  simp only [List.length_cons] at enough
  unfold condition
  refine (expect_delivers openingKind _).bind ?_
  refine (nodeDelivered depth (by omega)).bind ?_
  exact (expect_delivers closingKind _).bind (delivers_pure _ _)

theorem noParameter_delivered {closing : Token} (kind : closing.kind = .closeParen)
    (rest : List Token) : (Phrase.parameters []).Delivered (closing :: rest) (closing :: rest) := by
  intro rounds rounded
  cases rounds with
  | nil => simp at rounded
  | cons _ rounds =>
      rw [parameters]
      refine (peek_delivers _).bind ?_
      simp only [List.head?_cons, kind, beq_self_eq_true, if_true]
      exact delivers_pure _ _

theorem parameter_delivered {token : Token} {name : String} {names : List String}
    {rest after : List Token} (named : token.Named name)
    (othersDelivered : (Phrase.parameters names).Delivered (skip .comma none rest) after) :
    (Phrase.parameters (name :: names)).Delivered (token :: rest) after := by
  intro rounds rounded
  simp only [List.length_cons] at rounded
  have shorter := length_skip_le .comma none rest
  cases rounds with
  | nil => simp at rounded
  | cons _ rounds =>
      simp only [List.length_cons] at rounded
      rw [parameters]
      refine (peek_delivers _).bind ?_
      have notClosed : ¬ (token.kind == .closeParen) = true := by
        simp [named.1]
      simp only [List.head?_cons, notClosed, Token.identifier_eq_some.mpr named]
      refine (advance_delivers _ _).bind ?_
      refine (accept_delivers _ _ _).bind ?_
      exact (othersDelivered rounds (by omega)).bind (delivers_pure _ _)

theorem block_delivered {opening first closing : Token} {nodes : List Node}
    {inner after : List Token} (openingKind : opening.kind = .openBrace)
    (closingKind : closing.kind = .closeBrace)
    (statementsDelivered :
      (Phrase.statements nodes).Delivered (first :: inner) (closing :: after)) :
    (Phrase.block (.sequence first.line nodes)).Delivered (opening :: first :: inner) after := by
  intro depth enough
  simp only [List.length_cons] at enough
  obtain ⟨depth, rfl⟩ : ∃ less, depth = less + 2 := ⟨depth - 2, by omega⟩
  rw [block, sequence]
  refine (expect_delivers openingKind _).bind ?_
  refine Delivers.bind ((currentLine_delivers _ _).bind ?_)
    ((expect_delivers closingKind _).bind (delivers_pure _ _))
  refine (remaining_delivers _).bind ?_
  refine (statementsDelivered depth _ ?_ (Nat.le_refl _)).bind (delivers_pure _ _)
  simp only [List.length_cons]
  omega

theorem conditional_delivered {first : Token} {test thenBlock : Node} {elseNode : Option Node}
    {rest middle last after : List Token}
    (blockShorter : middle.length + 3 ≤ rest.length + 1)
    (branchesShorter : last.length ≤ middle.length)
    (testDelivered :
      (Phrase.condition test).Delivered (skip .keyword (some "if") (first :: rest)) middle)
    (blockDelivered : (Phrase.block thenBlock).Delivered middle last)
    (branchesDelivered : (Phrase.branches elseNode).Delivered last after) :
    (Phrase.conditional (.conditional first.line test thenBlock elseNode)).Delivered
      (first :: rest) after := by
  intro depth enough
  have shorter := length_skip_le .keyword (some "if") (first :: rest)
  simp only [List.length_cons] at enough shorter
  cases depth with
  | zero => omega
  | succ depth =>
      rw [conditional_succ]
      refine (currentLine_delivers _ _).bind ?_
      refine (accept_delivers _ _ _).bind ?_
      refine (testDelivered depth (by omega)).bind ?_
      refine (blockDelivered depth (by omega)).bind ?_
      exact branchesDelivered depth _ _ _ (by omega)

theorem noBranch_delivered {tokens : List Token}
    (noElif : leads .keyword (some "elif") tokens = false)
    (noElse : leads .keyword (some "else") tokens = false) :
    (Phrase.branches none).Delivered tokens tokens := by
  intro depth line test thenBlock _
  unfold branching
  refine (accept_delivers _ _ _).bind ?_
  simp only [noElif, skip, Bool.false_eq_true, if_false]
  refine (accept_delivers _ _ _).bind ?_
  simp only [noElse, skip, Bool.false_eq_true, if_false]
  exact delivers_pure _ _

theorem elifBranch_delivered {token : Token} {node : Node} {rest after : List Token}
    (keyword : token.IsKeyword "elif")
    (nodeDelivered : (Phrase.conditional node).Delivered rest after) :
    (Phrase.branches (some node)).Delivered (token :: rest) after := by
  intro depth line test thenBlock enough
  simp only [List.length_cons] at enough
  unfold branching
  refine (accept_delivers _ _ _).bind ?_
  rw [skip_keyword keyword, leads_keyword keyword]
  exact (nodeDelivered depth (by omega)).bind (delivers_pure _ _)

theorem elseBranch_delivered {token : Token} {node : Node} {rest after : List Token}
    (keyword : token.IsKeyword "else")
    (nodeDelivered : (Phrase.block node).Delivered rest after) :
    (Phrase.branches (some node)).Delivered (token :: rest) after := by
  intro depth line test thenBlock enough
  simp only [List.length_cons] at enough
  unfold branching
  refine (accept_delivers _ _ _).bind ?_
  have noElif : leads .keyword (some "elif") (token :: rest) = false := by
    simp [leads_keyword keyword]
  simp only [noElif, skip, Bool.false_eq_true, if_false]
  refine (accept_delivers _ _ _).bind ?_
  rw [skip_keyword keyword, leads_keyword keyword]
  exact (nodeDelivered depth (by omega)).bind (delivers_pure _ _)

def keywordRule (depth : Nat) (text : Option String) : Parser Node :=
  match text with
  | some "if" => conditional depth
  | some "while" => whileLoop (expression depth 0) (block depth)
  | some "for" => forLoop (expression depth 0) (block depth)
  | some "fun" => functionDefinition (block depth)
  | some "return" => returnStatement (expression depth 0)
  | some "import" => importStatement
  | text => fail (.strayKeyword (text.getD "None"))

theorem statement_delivers_keyword {token : Token} {word : String} {rest after : List Token}
    {node : Node} (keyword : token.IsKeyword word)
    (delivers : ∀ depth, 2 * rest.length + 4 ≤ depth →
      (keywordRule depth (some word)).Delivers (token :: rest) node after) :
    (Phrase.statement node).Delivered (token :: rest) after := by
  intro depth enough
  simp only [List.length_cons] at enough
  cases depth with
  | zero => omega
  | succ depth =>
      rw [statement]
      refine (peek_delivers _).bind ?_
      refine (noteStart_delivers _ _).bind ?_
      simp only [keyword.1, Token.text_eq_some.mpr keyword.2]
      exact delivers depth (by omega)

theorem whileStatement_delivered {token : Token} {test body : Node}
    {rest middle after : List Token} (keyword : token.IsKeyword "while")
    (shorter : middle.length ≤ rest.length)
    (testDelivered : (Phrase.condition test).Delivered rest middle)
    (bodyDelivered : (Phrase.block body).Delivered middle after) :
    (Phrase.statement (.whileLoop token.line test body)).Delivered (token :: rest) after := by
  refine statement_delivers_keyword keyword fun depth enough => ?_
  refine (currentLine_delivers _ _).bind ?_
  refine (accept_delivers _ _ _).bind ?_
  rw [skip_keyword keyword]
  refine (testDelivered depth (by omega)).bind ?_
  exact (bodyDelivered depth (by omega)).bind (delivers_pure _ _)

theorem forStatement_delivered {token opening element closing : Token} {name : String}
    {array body : Node} {rest middle after : List Token} (keyword : token.IsKeyword "for")
    (openingKind : opening.kind = .openParen) (named : element.Named name)
    (closingKind : closing.kind = .closeParen) (shorter : middle.length ≤ rest.length)
    (arrayDelivered : (Phrase.condition array).Delivered rest middle)
    (bodyDelivered : (Phrase.block body).Delivered middle after) :
    (Phrase.statement (.forLoop token.line name array body)).Delivered
      (token :: opening :: element :: closing :: rest) after := by
  refine statement_delivers_keyword keyword fun depth enough => ?_
  simp only [List.length_cons] at enough
  refine (currentLine_delivers _ _).bind ?_
  refine (accept_delivers _ _ _).bind ?_
  rw [skip_keyword keyword]
  refine (expect_delivers openingKind _).bind ?_
  refine (take_delivers _ _).bind ?_
  simp only [Token.identifier_eq_some.mpr named]
  refine (expect_delivers closingKind _).bind ?_
  refine (arrayDelivered depth (by omega)).bind ?_
  exact (bodyDelivered depth (by omega)).bind (delivers_pure _ _)

theorem functionStatement_delivered {token callee opening closing : Token} {name : String}
    {names : List String} {body : Node} {rest middle after : List Token}
    (keyword : token.IsKeyword "fun") (named : callee.Named name)
    (openingKind : opening.kind = .openParen) (closingKind : closing.kind = .closeParen)
    (shorter : middle.length ≤ rest.length)
    (namesDelivered : (Phrase.parameters names).Delivered rest (closing :: middle))
    (bodyDelivered : (Phrase.block body).Delivered middle after) :
    (Phrase.statement (.function callee.line name names body)).Delivered
      (token :: callee :: opening :: rest) after := by
  refine statement_delivers_keyword keyword fun depth enough => ?_
  simp only [List.length_cons] at enough
  refine (accept_delivers _ _ _).bind ?_
  rw [skip_keyword keyword]
  refine (expectName_delivers named _).bind ?_
  refine (expect_delivers openingKind _).bind ?_
  refine (remaining_delivers _).bind ?_
  refine (namesDelivered rest (Nat.le_refl _)).bind ?_
  refine (expect_delivers closingKind _).bind ?_
  exact (bodyDelivered depth (by omega)).bind (delivers_pure _ _)

theorem returnNothing_delivered {token semicolon : Token} (keyword : token.IsKeyword "return")
    (kind : semicolon.kind = .semicolon) (after : List Token) :
    (Phrase.statement (.returns token.line none)).Delivered (token :: semicolon :: after)
      after := by
  refine statement_delivers_keyword keyword fun depth enough => ?_
  refine (currentLine_delivers _ _).bind ?_
  refine (accept_delivers _ _ _).bind ?_
  rw [skip_keyword keyword]
  refine (peek_delivers _).bind ?_
  simp only [List.head?_cons, kind, beq_self_eq_true, if_true]
  exact (expect_delivers kind _).bind (delivers_pure _ _)

theorem returnValue_delivered {token semicolon : Token} {value : Node}
    {rest after : List Token} (keyword : token.IsKeyword "return")
    (given : leads .semicolon none rest = false) (nonempty : rest ≠ [])
    (kind : semicolon.kind = .semicolon)
    (valueDelivered : (Phrase.expression 0 value).Delivered rest (semicolon :: after)) :
    (Phrase.statement (.returns token.line (some value))).Delivered (token :: rest) after := by
  refine statement_delivers_keyword keyword fun depth enough => ?_
  refine (currentLine_delivers _ _).bind ?_
  refine (accept_delivers _ _ _).bind ?_
  rw [skip_keyword keyword]
  refine (peek_delivers _).bind ?_
  cases rest with
  | nil => exact absurd rfl nonempty
  | cons first rest =>
      have other : ¬ (first.kind == .semicolon) = true := by
        simpa [leads, Token.fits] using given
      simp only [List.head?_cons, other]
      refine (valueDelivered depth (by omega)).bind ?_
      exact (expect_delivers kind _).bind (delivers_pure _ _)

theorem importStatement_delivered {token moduleToken semicolon : Token} {moduleName : String}
    (keyword : token.IsKeyword "import") (named : moduleToken.Named moduleName)
    (kind : semicolon.kind = .semicolon) (after : List Token) :
    (Phrase.statement (.imports moduleToken.line moduleName)).Delivered
      (token :: moduleToken :: semicolon :: after) after := by
  refine statement_delivers_keyword keyword fun depth enough => ?_
  refine (accept_delivers _ _ _).bind ?_
  rw [skip_keyword keyword]
  refine (take_delivers _ _).bind ?_
  simp only [Token.identifier_eq_some.mpr named]
  exact (expect_delivers kind _).bind (delivers_pure _ _)

theorem statement_delivers_plain {token : Token} {rest after : List Token} {node : Node}
    (noKeyword : token.kind ≠ .keyword)
    (rule : ∀ depth, 2 * rest.length + 4 ≤ depth →
      Delivers (plainStatement (expression depth 0) token) (token :: rest) node after) :
    (Phrase.statement node).Delivered (token :: rest) after := by
  intro depth enough
  simp only [List.length_cons] at enough
  cases depth with
  | zero => omega
  | succ depth =>
      rw [statement]
      refine (peek_delivers _).bind ?_
      refine (noteStart_delivers _ _).bind ?_
      split
      next kind => exact absurd kind noKeyword
      next => exact rule depth (by omega)

theorem assigns_of_assignmentForm {token : Token} {form : Assignment}
    (found : assignmentForm? token = some form) : assigns token.kind = true := by
  unfold assignmentForm? at found
  split at found
  next kind => simp [assigns, kind]
  next kind => simp [assigns, kind]
  next kind => simp [assigns, kind]
  next => cases found

theorem assignment_delivered {token sign semicolon : Token} {name : String} {form : Assignment}
    {value : Node} {rest after : List Token} (named : token.Named name)
    (found : assignmentForm? sign = some form) (kind : semicolon.kind = .semicolon)
    (valueDelivered : (Phrase.expression 0 value).Delivered rest (semicolon :: after)) :
    (Phrase.statement (.assign token.line name form value)).Delivered (token :: sign :: rest)
      after := by
  have noKeyword : token.kind ≠ .keyword := by simp [named.1]
  refine statement_delivers_plain noKeyword fun depth enough => ?_
  simp only [List.length_cons] at enough
  unfold plainStatement
  refine (nextKind_delivers _).bind ?_
  simp only [named.1, beq_self_eq_true, List.getElem?_cons_succ, List.getElem?_cons_zero,
    Option.map_some, Option.any_some, assigns_of_assignmentForm found, Bool.and_self, if_true]
  unfold assignment
  refine (expectName_delivers named _).bind ?_
  refine (take_delivers _ _).bind ?_
  simp only [found]
  refine (valueDelivered depth (by omega)).bind ?_
  exact (expect_delivers kind _).bind (delivers_pure _ _)

theorem expressionStatement_delivered {first semicolon : Token} {value : Node}
    {rest after : List Token} (starts : startsExpression first.kind = true)
    (noAssignment : first.kind = .identifier →
      rest.head?.any (fun next => assigns next.kind) = false)
    (kind : semicolon.kind = .semicolon)
    (valueDelivered : (Phrase.expression 0 value).Delivered (first :: rest) (semicolon :: after)) :
    (Phrase.statement (.expression value.line value)).Delivered (first :: rest) after := by
  have noKeyword : first.kind ≠ .keyword := by
    intro keyword
    simp [startsExpression, keyword] at starts
  refine statement_delivers_plain noKeyword fun depth enough => ?_
  unfold plainStatement
  refine (nextKind_delivers _).bind ?_
  have plain : ¬ (first.kind == .identifier &&
      ((first :: rest)[1]?.map Token.kind).any assigns) = true := by
    simp only [Bool.and_eq_true, beq_iff_eq, not_and]
    intro identifier
    have := noAssignment identifier
    cases rest with
    | nil => simp
    | cons second rest => simpa using this
  rw [if_neg plain, if_pos starts]
  unfold expressionStatement
  refine (valueDelivered depth ?_).bind ?_
  · simp only [List.length_cons]
    omega
  · exact (expect_delivers kind _).bind (delivers_pure _ _)

theorem Reading.bracketed_opens {opening close : Token.Kind} {nodes : List Node}
    {before after : List Token} (reading : Reading (.bracketed opening close nodes) before after) :
    ∃ first rest, before = first :: rest ∧ first.kind = opening := by
  cases reading with
  | bracketed kind _ _ => exact ⟨_, _, rfl, kind⟩

theorem cons_of_length_lt {before after : List Token} (shorter : after.length < before.length) :
    ∃ first rest, before = first :: rest ∧ after.length ≤ rest.length := by
  cases before with
  | nil => simp at shorter
  | cons first rest => exact ⟨first, rest, rfl, Nat.le_of_lt_succ shorter⟩

/-- Rules make what readings say. -/
theorem Reading.delivered {phrase : Phrase} {before after : List Token}
    (reading : Reading phrase before after) : phrase.Delivered before after := by
  induction reading with
  | unary kind payload isUnary _ ih => exact unary_delivered kind payload isUnary ih
  | array bracketed ih =>
      obtain ⟨first, rest, same, kind⟩ := bracketed.bracketed_opens
      cases same
      exact array_delivered kind ih
  | int kind payload | float kind payload | string kind payload =>
      intro depth enough
      cases depth with
      | zero => omega
      | succ depth =>
          rw [primary]
          refine (peek_delivers _).bind ?_
          simp only [List.head?_cons, kind, payload]
          exact (advance_delivers _ _).bind (delivers_pure _ _)
  | reference named separate => exact reference_delivered named separate
  | call named bracketed ih =>
      obtain ⟨opening, rest, rfl, kind⟩ := bracketed.bracketed_opens
      exact call_delivered named kind ih
  | member named kind calleeNamed bracketed ih =>
      obtain ⟨opening, rest, rfl, _⟩ := bracketed.bracketed_opens
      exact member_delivered named kind calleeNamed ih
  | group openingKind _ closingKind ih => exact group_delivered openingKind closingKind ih
  | expression left _ ihLeft ihClimb =>
      have shorter := left.length_le
      simp only [Phrase.least] at shorter
      exact expression_delivered (by omega) ihLeft ihClimb
  | settle settled => exact settle_delivered settled
  | fold operator above right _ ihRight ihClimb =>
      have shorter := right.length_le
      simp only [Phrase.least] at shorter
      exact fold_delivered operator above (by omega) ihRight ihClimb
  | noItem stopped => exact fun _ rounds _ _ => itemsUntil_delivers_nil stopped rounds
  | item another node _ ihNode ihNodes =>
      obtain ⟨first, rest, rfl, shorter⟩ := cons_of_length_lt node.length_le
      exact item_delivered another shorter ihNode ihNodes
  | bracketed openingKind _ closingKind ih =>
      exact bracketed_delivered openingKind closingKind ih
  | condition openingKind _ closingKind ih =>
      exact condition_delivered openingKind closingKind ih
  | noParameter kind => exact noParameter_delivered kind _
  | parameter named _ ih => exact parameter_delivered named ih
  | noStatement stopped => exact fun _ rounds _ _ => itemsUntil_delivers_nil stopped rounds
  | statements another node _ ihNode ihNodes =>
      obtain ⟨first, rest, rfl, shorter⟩ := cons_of_length_lt node.length_le
      exact statements_delivered another shorter ihNode ihNodes
  | block openingKind _ closingKind ih => exact block_delivered openingKind closingKind ih
  | @conditional first _ _ _ rest _ _ _ test block _ ihTest ihBlock ihBranches =>
      have skipped := length_skip_le .keyword (some "if") (first :: rest)
      have testShorter := test.length_le
      have blockShorter := block.length_le
      simp only [Phrase.least, List.length_cons] at skipped testShorter blockShorter
      exact conditional_delivered (by omega) (by omega) ihTest ihBlock ihBranches
  | noBranch noElif noElse => exact noBranch_delivered noElif noElse
  | elifBranch keyword _ ih => exact elifBranch_delivered keyword ih
  | elseBranch keyword _ ih => exact elseBranch_delivered keyword ih
  | ifStatement keyword _ ih =>
      refine statement_delivers_keyword keyword fun depth enough => ih depth ?_
      simp only [List.length_cons]
      omega
  | whileStatement keyword test _ ihTest ihBody =>
      have shorter := test.length_le
      exact whileStatement_delivered keyword (by omega) ihTest ihBody
  | forStatement keyword openingKind named closingKind array _ ihArray ihBody =>
      have shorter := array.length_le
      exact forStatement_delivered keyword openingKind named closingKind (by omega) ihArray ihBody
  | functionStatement keyword named openingKind names closingKind _ ihNames ihBody =>
      have shorter := names.length_le
      simp only [List.length_cons] at shorter
      exact functionStatement_delivered keyword named openingKind closingKind (by omega) ihNames
        ihBody
  | returnNothing keyword kind => exact returnNothing_delivered keyword kind _
  | returnValue keyword given value kind ih =>
      refine returnValue_delivered keyword given ?_ kind ih
      rintro rfl
      simpa using value.length_le
  | importStatement keyword named kind => exact importStatement_delivered keyword named kind _
  | assignment named found _ kind ih => exact assignment_delivered named found kind ih
  | expressionStatement starts noAssignment _ kind ih =>
      exact expressionStatement_delivered starts noAssignment kind ih

end Scriptlet.Grammar
