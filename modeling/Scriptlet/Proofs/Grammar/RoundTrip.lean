import Scriptlet.Proofs.Grammar.Printing

/-!
Printing and parsing. However a program is printed, parsing gives it back, apart from its lines.
The operands carry the proof: one that is printed to stand before operators looser than `least` is
read in full by an expression of any floor up to `least`, which then goes on with what follows.
-/

namespace Scriptlet

namespace Grammar

open Node

theorem settled_unary (tokens : List Token) : Settled Operator.unaryPrecedence tokens := by
  intro token op precedence _ found
  exact Operator.precedence_lt_unary (Token.binaryOperator_eq_some.mp found).2.2

theorem settled_of_kind_ne {floor : Nat} {token : Token} {rest : List Token}
    (other : token.kind ≠ .operator) : Settled floor (token :: rest) := by
  intro head op precedence same found
  cases same
  exact absurd (Token.binaryOperator_eq_some.mp found).1 other

theorem separate_of_kind_ne {token : Token} {rest : List Token}
    (noParen : token.kind ≠ .openParen) (noColons : token.kind ≠ .doubleColon) :
    Separate (token :: rest) := by
  intro head same
  cases same
  exact ⟨noParen, noColons⟩

def ReadsAs (phrase : Node → Phrase) (node : Node) (before after : List Token) : Prop :=
  ∃ read : Node, Reading (phrase read) before after ∧ read.unplaced = node.unplaced

def ReadsAllAs (phrase : List Node → Phrase) (nodes : List Node) (before after : List Token) :
    Prop :=
  ∃ read, Reading (phrase read) before after ∧ unplacedAll read = unplacedAll nodes

def Piece.Read : Piece → List Token → Prop
  | .operand least node, tokens => ∀ rest, Separate rest → Settled least rest →
      ∃ read : Node, read.unplaced = node.unplaced ∧ ∀ floor result after, floor ≤ least →
        Reading (.climb floor read result) rest after →
        Reading (.expression floor result) (tokens ++ rest) after
  | .items nodes, tokens => ∀ closing rest,
      closing.kind = .closeParen ∨ closing.kind = .closeBracket →
      ReadsAllAs (.items closing.kind) nodes (tokens ++ closing :: rest) (closing :: rest)
  | .condition node, tokens => ∀ rest, ReadsAs .condition node (tokens ++ rest) rest
  | .parameters names, tokens => ∀ closing rest, closing.kind = .closeParen →
      Reading (.parameters names) (tokens ++ closing :: rest) (closing :: rest)
  | .statement node, tokens => ∀ rest, Branchless rest →
      ReadsAs .statement node (tokens ++ rest) rest
  | .statements nodes, tokens => ∀ rest, rest = [] ∨ leads .closeBrace none rest = true →
      ReadsAllAs .statements nodes (tokens ++ rest) rest
  | .block node, tokens => ∀ rest, ReadsAs .block node (tokens ++ rest) rest
  | .branches elseNode, tokens => ∀ rest, Branchless rest →
      ∃ read : Option Node, Reading (.branches read) (tokens ++ rest) rest ∧
        read.map unplaced = elseNode.map unplaced

section Expressions

variable {least : Nat} {node : Node} {tokens rest : List Token}

theorem Piece.Read.of_primary
    (primary : ∀ rest, Separate rest → ReadsAs .primary node (tokens ++ rest) rest) :
    (Piece.operand least node).Read tokens := by
  intro rest separate _
  obtain ⟨read, reading, same⟩ := primary rest separate
  exact ⟨read, same, fun floor result after _ climb => .expression reading climb⟩

theorem Piece.Read.expression (read : (Piece.operand least node).Read tokens)
    (separate : Separate rest) (settled : Settled least rest) :
    ReadsAs (.expression least) node (tokens ++ rest) rest := by
  obtain ⟨found, same, reading⟩ := read rest separate settled
  exact ⟨found, reading least found rest (Nat.le_refl _) (.settle settled), same⟩

def endsExpression (kind : Token.Kind) : Bool :=
  kind == .closeParen || kind == .closeBracket || kind == .comma || kind == .semicolon

theorem Piece.Read.expression_before {stop : Token} (read : (Piece.operand 0 node).Read tokens)
    (ends : endsExpression stop.kind = true) :
    ReadsAs (.expression 0) node (tokens ++ stop :: rest) (stop :: rest) := by
  have apart {kind : Token.Kind} (other : endsExpression kind = false) : stop.kind ≠ kind := by
    intro same
    rw [same, other] at ends
    cases ends
  exact read.expression (separate_of_kind_ne (apart rfl) (apart rfl))
    (settled_of_kind_ne (apart rfl))

theorem Piece.Read.unary {line : Nat} {op : Operator} {sign : Token} (isUnary : op.isUnary = true)
    (spelled : sign.IsOperator op)
    (read : (Piece.operand Operator.unaryPrecedence node).Read tokens) :
    (Piece.operand least (.unary line op node)).Read (sign :: tokens) := by
  have isKnown : op ∈ Operator.known := by
    cases op <;> first | decide | cases isUnary
  refine .of_primary fun rest separate => ?_
  obtain ⟨operand, reading, same⟩ := read.expression separate (settled_unary rest)
  have same' := Operator.ofText_text isKnown
  refine ⟨.unary sign.line (.ofText op.text) operand,
    .unary spelled.1 spelled.2 (by rw [same', isUnary]) reading, ?_⟩
  rw [same', unplaced, unplaced, same]

/-- The left operand is read first and goes on with the operator, whose right operand is read up to
what follows the whole. -/
theorem Piece.Read.binary {line precedence : Nat} {op : Operator} {left right : Node}
    {sign : Token} {first second : List Token} (ranked : op.precedence? = some precedence)
    (binds : least ≤ precedence) (spelled : sign.IsOperator op)
    (leftRead : (Piece.operand (precedence + 1) left).Read first)
    (rightRead : (Piece.operand precedence right).Read second) :
    (Piece.operand least (.binary line op left right)).Read (first ++ sign :: second) := by
  intro rest separate settled
  have found : binaryOperator? sign = some (op, precedence) :=
    Token.binaryOperator_eq_some.mpr ⟨spelled.1, spelled.2, ranked⟩
  have signSeparate : Separate (sign :: (second ++ rest)) :=
    separate_of_kind_ne (by simp [spelled.1]) (by simp [spelled.1])
  have signSettled : Settled (precedence + 1) (sign :: (second ++ rest)) := by
    intro token other bound head again
    cases head
    rw [found] at again
    cases again
    omega
  obtain ⟨leftNode, leftSame, leftReading⟩ := leftRead _ signSeparate signSettled
  -- What follows the whole binds more loosely than the right operand allows for.
  obtain ⟨rightNode, rightReading, rightSame⟩ := rightRead.expression separate (settled.mono binds)
  refine ⟨.binary sign.line op leftNode rightNode, ?_, fun floor result after below climb => ?_⟩
  · rw [unplaced, unplaced, leftSame, rightSame]
  · rw [List.append_assoc]
    refine leftReading floor result after (by omega) ?_
    exact .fold found (by omega) rightReading climb

theorem Piece.Read.bracketed {nodes : List Node} {opening closing : Token}
    {kind : Token.Kind} (openingKind : opening.kind = kind)
    (read : (Piece.items nodes).Read tokens)
    (closingKind : closing.kind = .closeParen ∨ closing.kind = .closeBracket) :
    ReadsAllAs (.bracketed kind closing.kind) nodes (opening :: (tokens ++ [closing]) ++ rest)
      rest := by
  obtain ⟨found, reading, same⟩ := read closing rest closingKind
  refine ⟨found, ?_, same⟩
  rw [List.cons_append, List.append_assoc]
  exact .bracketed openingKind reading rfl

theorem Piece.Read.item {nodes : List Node} {comma : Token} {others : List Token}
    (headRead : (Piece.operand 0 node).Read tokens) (kind : comma.kind = .comma)
    (tailRead : (Piece.items nodes).Read others) :
    (Piece.items (node :: nodes)).Read (tokens ++ comma :: others) := by
  intro closing rest closingKind
  obtain ⟨head, reading, same⟩ := headRead.expression_before (by rw [kind]; rfl)
  obtain ⟨tail, tailReading, tailSame⟩ := tailRead closing rest closingKind
  have skipped : skip .comma none (comma :: (others ++ closing :: rest)) =
      others ++ closing :: rest := if_pos (Token.fits_kind.mpr kind)
  refine ⟨head :: tail, ?_, by rw [unplacedAll, unplacedAll, same, tailSame]⟩
  rw [List.append_assoc]
  refine .item (reading.leads_expression ?_) reading (skipped ▸ tailReading)
  rcases closingKind with closes | closes <;> rw [closes] <;> rfl

theorem Piece.Read.lastItem (read : (Piece.operand 0 node).Read tokens) :
    (Piece.items [node]).Read tokens := by
  intro closing rest closingKind
  have ends : endsExpression closing.kind = true := by
    rcases closingKind with closes | closes <;> rw [closes] <;> rfl
  have apart : closing.kind ≠ .comma := by
    rcases closingKind with closes | closes <;> simp [closes]
  obtain ⟨found, reading, same⟩ := read.expression_before ends
  refine ⟨[found], .item (reading.leads_expression ?_) reading ?_, ?_⟩
  · rcases closingKind with closes | closes <;> rw [closes] <;> rfl
  · rw [skip_of_kind_ne none apart]
    exact .noItem (.inr (Token.fits_kind.mpr rfl))
  · rw [unplacedAll, unplacedAll, same, unplacedAll, unplacedAll]

end Expressions

theorem assignmentForm_of_assigns {sign : Token} {form : Assignment} (assigns : sign.Assigns form)
    (proper : Assignment.ofText form.text = form) : assignmentForm? sign = some form := by
  unfold assignmentForm?
  cases form with
  | define | replace => rw [show sign.kind = _ from assigns]
  | compound text =>
      have spelled := Token.text_eq_some.mpr assigns.2
      rw [assigns.1, spelled]
      exact congrArg some proper

theorem ReadsAs.conditional {ifKeyword condition block branches rest : List Token}
    {line : Nat} {test thenBlock : Node} {elseNode : Option Node}
    (optional : Optional (·.IsKeyword "if") ifKeyword)
    (testRead : (Piece.condition test).Read condition)
    (blockRead : (Piece.block thenBlock).Read block)
    (branchesRead : (Piece.branches elseNode).Read branches) (branchless : Branchless rest) :
    ReadsAs .conditional (.conditional line test thenBlock elseNode)
      (ifKeyword ++ (condition ++ (block ++ (branches ++ rest)))) rest := by
  obtain ⟨testNode, testReading, testSame⟩ := testRead (block ++ (branches ++ rest))
  obtain ⟨blockNode, blockReading, blockSame⟩ := blockRead (branches ++ rest)
  obtain ⟨elseRead, branchesReading, elseSame⟩ := branchesRead rest branchless
  obtain ⟨line, reading⟩ :=
    Reading.conditional_of_optional optional testReading blockReading branchesReading
  refine ⟨_, reading, ?_⟩
  rw [unplaced_conditional, unplaced_conditional, testSame, blockSame, elseSame]

theorem Printing.read {piece : Piece} {tokens : List Token} (printing : Printing piece tokens) :
    piece.Read tokens := by
  induction printing with
  | int kind payload => exact .of_primary fun rest _ => ⟨_, .int kind payload, rfl⟩
  | float kind payload => exact .of_primary fun rest _ => ⟨_, .float kind payload, rfl⟩
  | string kind payload => exact .of_primary fun rest _ => ⟨_, .string kind payload, rfl⟩
  | reference named =>
      exact .of_primary fun rest separate => ⟨_, .reference named separate, rfl⟩
  | unary isUnary spelled _ ih => exact .unary isUnary spelled ih
  | binary ranked binds spelled _ _ ihLeft ihRight =>
      exact .binary ranked binds spelled ihLeft ihRight
  | @call _ _ _ _ token opening closing _ named openingKind _ closingKind ih =>
      refine .of_primary fun rest _ => ?_
      obtain ⟨arguments, reading, same⟩ := ih.bracketed openingKind (.inl closingKind)
      rw [closingKind] at reading
      exact ⟨_, .call named reading, by rw [unplaced, unplaced, same]⟩
  | member named colons callee openingKind _ closingKind ih =>
      refine .of_primary fun rest _ => ?_
      obtain ⟨arguments, reading, same⟩ := ih.bracketed openingKind (.inl closingKind)
      rw [closingKind] at reading
      exact ⟨_, .member named colons callee reading, by rw [unplaced, unplaced, same]⟩
  | array openingKind _ closingKind ih =>
      refine .of_primary fun rest _ => ?_
      obtain ⟨elements, reading, same⟩ := ih.bracketed openingKind (.inr closingKind)
      rw [closingKind] at reading
      exact ⟨_, .array reading, by rw [unplaced, unplaced, same]⟩
  | group openingKind _ closingKind ih =>
      refine .of_primary fun rest _ => ?_
      obtain ⟨found, reading, same⟩ := ih.expression_before (by rw [closingKind]; rfl)
      rw [List.cons_append, List.append_assoc]
      exact ⟨found, .group openingKind reading closingKind, same⟩
  | noItem => exact fun closing rest _ => ⟨[], .noItem (.inr (Token.fits_kind.mpr rfl)), rfl⟩
  | lastItem _ ih => exact .lastItem ih
  | item _ kind _ ihHead ihTail => exact .item ihHead kind ihTail
  | condition openingKind _ closingKind ih =>
      intro rest
      obtain ⟨found, reading, same⟩ := ih.expression_before (by rw [closingKind]; rfl)
      rw [List.cons_append, List.append_assoc]
      exact ⟨found, .condition openingKind reading closingKind, same⟩
  | noParameter => exact fun closing rest kind => .noParameter kind
  | parameter named optional _ ih =>
      intro closing rest kind
      rw [List.cons_append, List.append_assoc]
      exact (ih closing rest kind).parameter_of_optional named optional
  | imports isKeyword named kind =>
      exact fun rest _ => ⟨_, .importStatement isKeyword named kind, rfl⟩
  | assign named assigns proper _ kind ih =>
      intro rest _
      obtain ⟨value, reading, same⟩ := ih.expression_before (by rw [kind]; rfl)
      have found := assignmentForm_of_assigns assigns proper
      rw [List.cons_append, List.cons_append, List.append_assoc]
      exact ⟨_, .assignment named found reading kind, by rw [unplaced, unplaced, same]⟩
  | returnNothing isKeyword kind =>
      exact fun rest _ => ⟨_, .returnNothing isKeyword kind, rfl⟩
  | returnValue isKeyword _ kind ih =>
      intro rest _
      obtain ⟨value, reading, same⟩ := ih.expression_before (by rw [kind]; rfl)
      rw [List.cons_append, List.append_assoc]
      exact ⟨_, .returnValue isKeyword (reading.leads_expression rfl) reading kind,
        by rw [unplaced, unplaced, same]⟩
  | function isKeyword named openingKind _ closingKind _ ihNames ihBody =>
      intro rest _
      obtain ⟨body, bodyReading, same⟩ := ihBody rest
      simp only [List.cons_append, List.append_assoc]
      exact ⟨_, .functionStatement isKeyword named openingKind (ihNames _ _ closingKind)
        closingKind bodyReading, by rw [unplaced, unplaced, same]⟩
  | expression _ notArray kind ih =>
      intro rest _
      obtain ⟨value, reading, same⟩ := ih.expression_before (by rw [kind]; rfl)
      rw [List.append_assoc]
      exact ⟨_, reading.statement_of_expression notArray kind, by rw [unplaced, unplaced, same]⟩
  | @conditional _ _ _ _ keyword _ _ _ isKeyword _ _ _ ihTest ihBlock ihBranches =>
      intro rest branchless
      have optional : Optional (·.IsKeyword "if") [keyword] := .inr ⟨keyword, rfl, isKeyword⟩
      obtain ⟨node, reading, same⟩ :=
        ReadsAs.conditional optional ihTest ihBlock ihBranches branchless
      refine ⟨node, ?_, same⟩
      simpa using Reading.ifStatement isKeyword reading
  | whileLoop isKeyword _ _ ihTest ihBody =>
      intro rest _
      obtain ⟨test, testReading, testSame⟩ := ihTest _
      obtain ⟨body, bodyReading, bodySame⟩ := ihBody rest
      rw [List.cons_append, List.append_assoc]
      exact ⟨_, .whileStatement isKeyword testReading bodyReading,
        by rw [unplaced, unplaced, testSame, bodySame]⟩
  | forLoop isKeyword openingKind named closingKind _ _ ihArray ihBody =>
      intro rest _
      obtain ⟨array, arrayReading, arraySame⟩ := ihArray _
      obtain ⟨body, bodyReading, bodySame⟩ := ihBody rest
      simp only [List.cons_append, List.append_assoc]
      exact ⟨_, .forStatement isKeyword openingKind named closingKind arrayReading bodyReading,
        by rw [unplaced, unplaced, arraySame, bodySame]⟩
  | noStatement => exact fun rest closed => ⟨[], .noStatement closed, rfl⟩
  | statements _ _ ihHead ihTail =>
      intro rest closed
      obtain ⟨nodes, tail, tailSame⟩ := ihTail rest closed
      obtain ⟨node, reading, same⟩ := ihHead _ tail.statements_branchless
      rw [List.append_assoc]
      exact ⟨node :: nodes, .statements reading.statement_opens.1 reading tail,
        by rw [unplacedAll, unplacedAll, same, tailSame]⟩
  | block openingKind _ closingKind ih =>
      intro rest
      obtain ⟨nodes, reading, same⟩ := ih (_ :: rest) (.inr (Token.fits_kind.mpr closingKind))
      obtain ⟨line, reading⟩ := Reading.block_of_statements openingKind reading closingKind
      rw [List.cons_append, List.append_assoc]
      exact ⟨_, reading, by rw [unplaced, unplaced, same]⟩
  | noBranch => exact fun rest branchless => ⟨none, .noBranch branchless.1 branchless.2, rfl⟩
  | elseIf isKeyword optional _ _ _ ihTest ihBlock ihBranches =>
      intro rest branchless
      obtain ⟨node, reading, same⟩ :=
        ReadsAs.conditional optional ihTest ihBlock ihBranches branchless
      refine ⟨some node, ?_, congrArg some same⟩
      simpa using Reading.elifBranch isKeyword reading
  | elseBlock isKeyword _ ih =>
      intro rest _
      obtain ⟨node, reading, same⟩ := ih rest
      exact ⟨some node, .elseBranch isKeyword reading, congrArg some same⟩

end Grammar

namespace Node

open Grammar

/-- A program can be printed; and from each of its printings parsing gives it back, apart from
lines, and leaves no token, where the recursion limit is not reached. -/
theorem parse_of_printing (tree : Node) (file : Option String)
    (wellFormed : WellFormed .block tree) :
    (∃ tokens, Printing (.statements tree.statements) tokens) ∧
    ∀ tokens limit, Printing (.statements tree.statements) tokens →
      WithinLimit limit tokens file →
      ∃ parsed, (Node.parse limit tokens file).1 = .ok parsed ∧
        parsed.unplaced = tree.unplaced ∧
        (Node.parse limit tokens file).2.cursor.ahead = [] ∧
        (Node.parse limit tokens file).2.cursor.index = tokens.length := by
  have printable := wellFormed.printable
  cases wellFormed with
  | @sequence line statements _ =>
      constructor
      · obtain ⟨tokens, printing⟩ := printable
        cases printing with
        | block _ inner _ => exact ⟨_, inner⟩
      · intro tokens limit printing within
        obtain ⟨nodes, reading, same⟩ := printing.read [] (.inl rfl)
        rw [List.append_nil] at reading
        have parsed : (Node.parse limit tokens file).1 =
            .ok (.sequence (firstLine tokens) nodes) := parse_of_reading reading within
        obtain ⟨finished, index⟩ := parse_consumes parsed
        refine ⟨_, parsed, ?_, finished, index⟩
        rw [unplaced, unplaced]
        exact congrArg (Node.sequence 0) same

/-- `(a - b) - -c;`, where the first parentheses are needed. -/
def differences : Node :=
  .sequence 1 [.expression 1 (.binary 1 .subtract
    (.binary 1 .subtract (.reference 1 "a") (.reference 1 "b"))
    (.unary 1 .subtract (.reference 1 "c")))]

theorem wellFormed_differences : WellFormed .block differences := by
  refine .sequence fun node member => ?_
  cases List.mem_singleton.mp member
  exact .expression (.binary rfl (.binary rfl .reference .reference) (.unary rfl .reference))

/-- The tokens of `(a - b) - -(c);`. -/
def differencesTokens : List Token :=
  [mark .openParen, word .identifier "a", word .operator "-", word .identifier "b",
    mark .closeParen, word .operator "-", word .operator "-", mark .openParen,
    word .identifier "c", mark .closeParen, mark .semicolon]

theorem printing_differences : Printing (.statements differences.statements) differencesTokens := by
  have minus : (word .operator "-").IsOperator .subtract := ⟨rfl, rfl⟩
  have left : Printing (.operand 6 (.binary 1 .subtract (.reference 1 "a") (.reference 1 "b")))
      (mark .openParen ::
        ([word .identifier "a"] ++ word .operator "-" :: [word .identifier "b"] ++
          [mark .closeParen])) :=
    .group rfl (.binary rfl (by decide) minus (.reference (named_word "a"))
      (.reference (named_word "b"))) rfl
  have right : Printing (.operand 5 (.unary 1 .subtract (.reference 1 "c")))
      (word .operator "-" :: mark .openParen :: ([word .identifier "c"] ++ [mark .closeParen])) :=
    .unary rfl minus (.group rfl (.reference (named_word "c")) rfl)
  exact .statements (.expression (.binary rfl (by decide) minus left right) rfl rfl) .noStatement

theorem parse_differences :
    WellFormed .block differences ∧
    ∃ parsed, (Node.parse 52 differencesTokens none).1 = .ok parsed ∧
      parsed.unplaced = differences.unplaced ∧
      (Node.parse 52 differencesTokens none).2.cursor.ahead = [] ∧
      (Node.parse 52 differencesTokens none).2.cursor.index = differencesTokens.length :=
  ⟨wellFormed_differences,
    (parse_of_printing differences none wellFormed_differences).2 differencesTokens 52
      printing_differences (withinLimit_of_ample (by decide))⟩

end Node

end Scriptlet
