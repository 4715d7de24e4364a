import Scriptlet.Proofs.Grammar.Program

/-!
The context-free grammar of the language, over tokens. It leaves open how operators group and where
an item ends that no comma follows. Whatever is read is derivable.
-/

namespace Scriptlet

theorem Operator.text_ofText (text : String) : (Operator.ofText text).text = text := by
  unfold Operator.ofText
  cases found : Operator.known.find? fun op => op.text == text with
  | none => rfl
  | some op => simpa using List.find?_some found

theorem Operator.ofText_text {op : Operator} (isKnown : op ∈ Operator.known) :
    Operator.ofText op.text = op := by
  revert op
  decide

theorem Operator.mem_known {op : Operator} {precedence : Nat}
    (ranked : op.precedence? = some precedence) : op ∈ Operator.known := by
  cases op <;> first | decide | cases ranked

theorem Operator.precedence_lt_unary {op : Operator} {precedence : Nat}
    (ranked : op.precedence? = some precedence) : precedence < Operator.unaryPrecedence := by
  cases op <;> cases ranked <;> decide

namespace Token

def IsBinary (token : Token) : Prop :=
  token.kind = .operator ∧
    ∃ op : Operator, op.precedence?.isSome = true ∧ token.payload = some (.text op.text)

def IsUnary (token : Token) : Prop :=
  token.kind = .operator ∧
    (token.payload = some (.text "!") ∨ token.payload = some (.text "-"))

def IsAssignment (token : Token) : Prop :=
  token.kind = .define ∨ token.kind = .assign ∨
    token.kind = .compoundAssign ∧ ∃ text, token.payload = some (.text text)

theorem isUnary_iff {token : Token} {text : String} (kind : token.kind = .operator)
    (payload : token.payload = some (.text text)) :
    token.IsUnary ↔ (Operator.ofText text).isUnary = true := by
  simp only [IsUnary, kind, payload, true_and, Option.some.injEq, Payload.text.injEq,
    Operator.isUnary, Bool.or_eq_true, beq_iff_eq]
  constructor
  · rintro (rfl | rfl)
    · exact .inl rfl
    · exact .inr rfl
  · have spelled := Operator.text_ofText text
    rintro (same | same)
    · rw [same] at spelled
      exact .inl spelled.symm
    · rw [same] at spelled
      exact .inr spelled.symm

theorem binaryOperator_eq_some {token : Token} {op : Operator} {precedence : Nat} :
    Grammar.binaryOperator? token = some (op, precedence) ↔
      token.kind = .operator ∧ token.payload = some (.text op.text) ∧
        op.precedence? = some precedence := by
  unfold Grammar.binaryOperator? operator?
  by_cases kind : token.kind = .operator
  · cases found : token.text? with
    | none =>
        have unspelled : token.payload ≠ some (.text op.text) := by
          intro payload
          rw [text_eq_some.mpr payload] at found
          cases found
        simp [kind, unspelled]
    | some text =>
        have payload := text_eq_some.mp found
        simp only [kind, beq_self_eq_true, if_true, Option.map_some, Option.map_eq_some_iff,
          Prod.mk.injEq, payload, Option.some.injEq, Payload.text.injEq, true_and]
        constructor
        · rintro ⟨_, ranked, rfl, rfl⟩
          exact ⟨(Operator.text_ofText text).symm, ranked⟩
        · rintro ⟨rfl, ranked⟩
          rw [Operator.ofText_text (Operator.mem_known ranked)]
          exact ⟨precedence, ranked, rfl, rfl⟩
  · simp [kind]

theorem isBinary_iff {token : Token} :
    token.IsBinary ↔ ∃ op precedence, Grammar.binaryOperator? token = some (op, precedence) := by
  simp only [binaryOperator_eq_some]
  constructor
  · rintro ⟨kind, op, ranked, payload⟩
    obtain ⟨precedence, ranked⟩ := Option.isSome_iff_exists.mp ranked
    exact ⟨op, precedence, kind, payload, ranked⟩
  · rintro ⟨op, precedence, kind, payload, ranked⟩
    exact ⟨kind, op, by rw [ranked]; rfl, payload⟩

theorem isAssignment_iff {token : Token} :
    token.IsAssignment ↔ ∃ form, Grammar.assignmentForm? token = some form := by
  unfold IsAssignment Grammar.assignmentForm?
  cases token.kind <;> simp [text_eq_some, exists_comm]

end Token

namespace Grammar

/-- The syntactic categories. `operations` are operators with their right operands, and
`branches` what may follow the block of a conditional. -/
inductive Category where
  | statements
  | statement
  | branches
  | condition
  | block
  | parameters
  | expression
  | operations
  | primary
  | items

inductive Derives : Category → List Token → Prop
  | noStatement : Derives .statements []
  | statements {first rest : List Token} :
      Derives .statement first → Derives .statements rest → Derives .statements (first ++ rest)
  | ifStatement {keyword : Token} {test body branches : List Token} :
      keyword.IsKeyword "if" → Derives .condition test → Derives .block body →
      Derives .branches branches → Derives .statement (keyword :: (test ++ (body ++ branches)))
  | whileStatement {keyword : Token} {test body : List Token} :
      keyword.IsKeyword "while" → Derives .condition test → Derives .block body →
      Derives .statement (keyword :: (test ++ body))
  | forStatement {keyword opening element closing : Token} {name : String}
      {array body : List Token} :
      keyword.IsKeyword "for" → opening.kind = .openParen → element.Named name →
      closing.kind = .closeParen → Derives .condition array → Derives .block body →
      Derives .statement (keyword :: opening :: element :: closing :: (array ++ body))
  | functionStatement {keyword callee opening closing : Token} {name : String}
      {parameters body : List Token} :
      keyword.IsKeyword "fun" → callee.Named name → opening.kind = .openParen →
      Derives .parameters parameters → closing.kind = .closeParen → Derives .block body →
      Derives .statement (keyword :: callee :: opening :: (parameters ++ closing :: body))
  | returnNothing {keyword semicolon : Token} :
      keyword.IsKeyword "return" → semicolon.kind = .semicolon →
      Derives .statement [keyword, semicolon]
  | returnValue {keyword semicolon : Token} {value : List Token} :
      keyword.IsKeyword "return" → Derives .expression value → semicolon.kind = .semicolon →
      Derives .statement (keyword :: (value ++ [semicolon]))
  | importStatement {keyword moduleToken semicolon : Token} {moduleName : String} :
      keyword.IsKeyword "import" → moduleToken.Named moduleName → semicolon.kind = .semicolon →
      Derives .statement [keyword, moduleToken, semicolon]
  | assignment {target sign semicolon : Token} {name : String} {value : List Token} :
      target.Named name → sign.IsAssignment → Derives .expression value →
      semicolon.kind = .semicolon → Derives .statement (target :: sign :: (value ++ [semicolon]))
  | expressionStatement {semicolon : Token} {value : List Token} :
      Derives .expression value → leads .openBracket none value = false →
      semicolon.kind = .semicolon → Derives .statement (value ++ [semicolon])
  | noBranch : Derives .branches []
  | elifBranch {keyword : Token} {ifKeyword test body branches : List Token} :
      keyword.IsKeyword "elif" → Optional (·.IsKeyword "if") ifKeyword →
      Derives .condition test → Derives .block body → Derives .branches branches →
      Derives .branches (keyword :: (ifKeyword ++ (test ++ (body ++ branches))))
  | elseBranch {keyword : Token} {body : List Token} :
      keyword.IsKeyword "else" → Derives .block body → Derives .branches (keyword :: body)
  | condition {opening closing : Token} {inner : List Token} :
      opening.kind = .openParen → Derives .expression inner → closing.kind = .closeParen →
      Derives .condition (opening :: (inner ++ [closing]))
  | block {opening closing : Token} {inner : List Token} :
      opening.kind = .openBrace → Derives .statements inner → closing.kind = .closeBrace →
      Derives .block (opening :: (inner ++ [closing]))
  | noParameter : Derives .parameters []
  | parameter {token : Token} {name : String} {comma rest : List Token} :
      token.Named name → Optional (·.kind = .comma) comma → Derives .parameters rest →
      Derives .parameters (token :: (comma ++ rest))
  | expression {first rest : List Token} :
      Derives .primary first → Derives .operations rest → Derives .expression (first ++ rest)
  | noOperation : Derives .operations []
  | operation {operator : Token} {operand rest : List Token} :
      operator.IsBinary → Derives .primary operand → Derives .operations rest →
      Derives .operations (operator :: (operand ++ rest))
  | unary {operator : Token} {operand : List Token} :
      operator.IsUnary → Derives .primary operand → Derives .primary (operator :: operand)
  | int {token : Token} {value : Int} :
      token.kind = .integer → token.payload = some (.integer value) → Derives .primary [token]
  | float {token : Token} {value : Float} :
      token.kind = .float → token.payload = some (.float value) → Derives .primary [token]
  | string {token : Token} {text : String} :
      token.kind = .string → token.payload = some (.text text) → Derives .primary [token]
  | reference {token : Token} {name : String} : token.Named name → Derives .primary [token]
  | call {token opening closing : Token} {name : String} {arguments : List Token} :
      token.Named name → opening.kind = .openParen → Derives .items arguments →
      closing.kind = .closeParen →
      Derives .primary (token :: opening :: (arguments ++ [closing]))
  | member {token colons callee opening closing : Token} {moduleName name : String}
      {arguments : List Token} :
      token.Named moduleName → colons.kind = .doubleColon → callee.Named name →
      opening.kind = .openParen → Derives .items arguments → closing.kind = .closeParen →
      Derives .primary (token :: colons :: callee :: opening :: (arguments ++ [closing]))
  | array {opening closing : Token} {elements : List Token} :
      opening.kind = .openBracket → Derives .items elements → closing.kind = .closeBracket →
      Derives .primary (opening :: (elements ++ [closing]))
  | group {opening closing : Token} {inner : List Token} :
      opening.kind = .openParen → Derives .expression inner → closing.kind = .closeParen →
      Derives .primary (opening :: (inner ++ [closing]))
  | noItem : Derives .items []
  | item {node comma rest : List Token} :
      Derives .expression node → Optional (·.kind = .comma) comma → Derives .items rest →
      Derives .items (node ++ (comma ++ rest))

theorem Derives.operations_append {first second : List Token}
    (head : Derives .operations first) (tail : Derives .operations second) :
    Derives .operations (first ++ second) := by
  generalize same : Category.operations = category at head
  induction head with
  | noOperation => exact tail
  | operation isBinary operand _ _ ih =>
      simpa using Derives.operation isBinary operand (ih same)
  | _ => cases same

theorem skip_eq_append (kind : Token.Kind) (text : Option String) (tokens : List Token) :
    ∃ skipped, tokens = skipped ++ skip kind text tokens ∧
      Optional (fun token => token.fits kind (text.map Token.Payload.text) = true) skipped := by
  unfold skip
  split
  next found =>
    cases tokens with
    | nil => cases found
    | cons token rest => exact ⟨[token], rfl, .inr ⟨token, rfl, found⟩⟩
  next => exact ⟨[], rfl, .inl rfl⟩

theorem Optional.imp {fits others : Token → Prop} {tokens : List Token}
    (given : Optional fits tokens) (weaken : ∀ token, fits token → others token) :
    Optional others tokens := by
  rcases given with empty | ⟨token, single, fitting⟩
  · exact .inl empty
  · exact .inr ⟨token, single, weaken token fitting⟩

theorem skip_comma_eq_append (tokens : List Token) :
    ∃ comma, tokens = comma ++ skip .comma none tokens ∧ Optional (·.kind = .comma) comma := by
  obtain ⟨comma, same, fitting⟩ := skip_eq_append .comma none tokens
  exact ⟨comma, same, fitting.imp fun _ => Token.fits_kind.mp⟩

/-- What is said of the tokens of a phrase. Operators whose precedence lies below the floor are not
among them, so none are where the floor is that of a unary operand. -/
def Phrase.Derived : Phrase → List Token → Prop
  | primary _, tokens => Derives .primary tokens
  | expression floor _, tokens => ∃ first rest, tokens = first ++ rest ∧ Derives .primary first ∧
      Derives .operations rest ∧ (Operator.unaryPrecedence ≤ floor → rest = [])
  | climb floor _ _, tokens => Derives .operations tokens ∧
      (Operator.unaryPrecedence ≤ floor → tokens = [])
  | items _ _, tokens => Derives .items tokens
  | bracketed opening close _, tokens => ∃ first inner last, tokens = first :: (inner ++ [last]) ∧
      first.kind = opening ∧ Derives .items inner ∧ last.kind = close
  | condition _, tokens => Derives .condition tokens
  | parameters _, tokens => Derives .parameters tokens
  | statements _, tokens => Derives .statements tokens
  | block _, tokens => Derives .block tokens
  | conditional _, tokens => ∃ ifKeyword test body branches,
      tokens = ifKeyword ++ (test ++ (body ++ branches)) ∧
      Optional (·.IsKeyword "if") ifKeyword ∧ Derives .condition test ∧ Derives .block body ∧
      Derives .branches branches
  | branches _, tokens => Derives .branches tokens
  | statement _, tokens => Derives .statement tokens

theorem Phrase.Derived.expression {floor : Nat} {node : Node} {tokens : List Token}
    (derived : (Phrase.expression floor node).Derived tokens) : Derives .expression tokens := by
  obtain ⟨first, rest, rfl, head, tail, _⟩ := derived
  exact .expression head tail

theorem Phrase.Derived.ifStatement {node : Node} {keyword : Token} {tokens : List Token}
    (isIf : keyword.IsKeyword "if")
    (derived : (Phrase.conditional node).Derived (keyword :: tokens)) :
    Derives .statement (keyword :: tokens) := by
  obtain ⟨ifKeyword, test, body, branches, same, optional, testDerives, bodyDerives,
    branchesDerive⟩ := derived
  rcases optional with rfl | ⟨token, rfl, _⟩
  · -- A condition begins with a parenthesis, never with a keyword.
    cases testDerives with
    | condition opening _ _ =>
        simp only [List.nil_append, List.cons_append, List.cons.injEq] at same
        have clash := isIf.1
        rw [same.1, opening] at clash
        cases clash
  · simp only [List.cons_append, List.nil_append, List.cons.injEq] at same
    obtain ⟨rfl, rfl⟩ := same
    exact .ifStatement isIf testDerives bodyDerives branchesDerive

theorem Reading.derived {phrase : Phrase} {before after : List Token}
    (reading : Reading phrase before after) :
    ∃ segment, before = segment ++ after ∧ phrase.Derived segment := by
  induction reading with
  | @unary token text _ _ _ kind payload isUnary _ ih =>
      obtain ⟨_, rfl, first, rest, rfl, head, _, bare⟩ := ih
      obtain rfl := bare (Nat.le_refl _)
      rw [List.append_nil]
      exact ⟨token :: first, rfl, .unary ((Token.isUnary_iff kind payload).mpr isUnary) head⟩
  | array _ ih =>
      obtain ⟨_, same, _, inner, last, rfl, opening, items, closing⟩ := ih
      exact ⟨_, same, .array opening items closing⟩
  | @int token _ _ kind payload => exact ⟨[token], rfl, .int kind payload⟩
  | @float token _ _ kind payload => exact ⟨[token], rfl, .float kind payload⟩
  | @string token _ _ kind payload => exact ⟨[token], rfl, .string kind payload⟩
  | @reference token _ _ named _ => exact ⟨[token], rfl, .reference named⟩
  | @call token _ _ _ _ named _ ih =>
      obtain ⟨_, rfl, _, inner, last, rfl, opening, items, closing⟩ := ih
      exact ⟨token :: _, rfl, .call named opening items closing⟩
  | @member token colons callee _ _ _ _ _ named kind calleeNamed _ ih =>
      obtain ⟨_, rfl, _, inner, last, rfl, opening, items, closing⟩ := ih
      exact ⟨token :: colons :: callee :: _, rfl, .member named kind calleeNamed opening items
        closing⟩
  | @group opening closing _ _ _ openingKind _ closingKind ih =>
      obtain ⟨inner, rfl, derived⟩ := ih
      exact ⟨opening :: (inner ++ [closing]), by simp,
        .group openingKind derived.expression closingKind⟩
  | expression _ _ ihLeft ihClimb =>
      obtain ⟨first, rfl, head⟩ := ihLeft
      obtain ⟨rest, rfl, tail, bare⟩ := ihClimb
      exact ⟨first ++ rest, by simp, first, rest, rfl, head, tail, bare⟩
  | settle _ => exact ⟨[], rfl, .noOperation, fun _ => rfl⟩
  | @fold floor precedence op token _ _ _ _ _ _ operator above _ _ ihRight ihClimb =>
      obtain ⟨_, rfl, first, operations, rfl, head, more, _⟩ := ihRight
      obtain ⟨rest, rfl, tail, _⟩ := ihClimb
      have ranked := (Token.binaryOperator_eq_some.mp operator).2.2
      refine ⟨token :: (first ++ (operations ++ rest)), by simp, ?_, fun tight => ?_⟩
      · exact .operation (Token.isBinary_iff.mpr ⟨op, precedence, operator⟩) head
          (more.operations_append tail)
      · have loose := Operator.precedence_lt_unary ranked
        omega
  | noItem _ => exact ⟨[], rfl, .noItem⟩
  | @item _ _ _ _ middle _ _ _ _ ihNode ihNodes =>
      obtain ⟨node, rfl, derived⟩ := ihNode
      obtain ⟨comma, same, optional⟩ := skip_comma_eq_append middle
      obtain ⟨rest, others, tail⟩ := ihNodes
      refine ⟨node ++ (comma ++ rest), ?_, .item derived.expression optional tail⟩
      rw [List.append_assoc, List.append_assoc, ← others, ← same]
  | @bracketed _ _ first last _ _ _ openingKind _ closingKind ih =>
      obtain ⟨inner, rfl, items⟩ := ih
      exact ⟨first :: (inner ++ [last]), by simp, first, inner, last, rfl, openingKind, items,
        closingKind⟩
  | @condition opening closing _ _ _ openingKind _ closingKind ih =>
      obtain ⟨inner, rfl, derived⟩ := ih
      exact ⟨opening :: (inner ++ [closing]), by simp,
        .condition openingKind derived.expression closingKind⟩
  | noParameter _ => exact ⟨[], rfl, .noParameter⟩
  | @parameter token _ _ rest _ named _ ih =>
      obtain ⟨comma, same, optional⟩ := skip_comma_eq_append rest
      obtain ⟨names, others, tail⟩ := ih
      refine ⟨token :: (comma ++ names), ?_, .parameter named optional tail⟩
      rw [List.cons_append, List.append_assoc, ← others, ← same]
  | noStatement _ => exact ⟨[], rfl, .noStatement⟩
  | statements _ _ _ ihNode ihNodes =>
      obtain ⟨first, rfl, head⟩ := ihNode
      obtain ⟨rest, rfl, tail⟩ := ihNodes
      exact ⟨first ++ rest, by simp, .statements head tail⟩
  | @block opening _ closing _ _ _ openingKind _ closingKind ih =>
      obtain ⟨inner, same, statements⟩ := ih
      exact ⟨opening :: (inner ++ [closing]), by simp [same],
        .block openingKind statements closingKind⟩
  | @conditional first _ _ _ rest _ _ _ _ _ _ ihTest ihBlock ihBranches =>
      obtain ⟨ifKeyword, same, optional⟩ := skip_eq_append .keyword (some "if") (first :: rest)
      obtain ⟨test, skipped, testDerives⟩ := ihTest
      obtain ⟨body, rfl, bodyDerives⟩ := ihBlock
      obtain ⟨branches, rfl, branchesDerive⟩ := ihBranches
      refine ⟨ifKeyword ++ (test ++ (body ++ branches)), ?_, ifKeyword, test, body, branches, rfl,
        optional.imp fun _ => Token.fits_keyword.mp, testDerives, bodyDerives, branchesDerive⟩
      rw [same, skipped]
      simp
  | noBranch _ _ => exact ⟨[], rfl, .noBranch⟩
  | @elifBranch token _ _ _ keyword _ ih =>
      obtain ⟨_, rfl, ifKeyword, test, body, branches, rfl, optional, testDerives, bodyDerives,
        branchesDerive⟩ := ih
      exact ⟨token :: _, rfl, .elifBranch keyword optional testDerives bodyDerives
        branchesDerive⟩
  | @elseBranch token _ _ _ keyword _ ih =>
      obtain ⟨body, rfl, derived⟩ := ih
      exact ⟨token :: body, rfl, .elseBranch keyword derived⟩
  | ifStatement keyword reading ih =>
      obtain ⟨segment, same, derived⟩ := ih
      have shorter := reading.length_le
      cases segment with
      | nil =>
          rw [same] at shorter
          exact absurd shorter (Nat.not_succ_le_self _)
      | cons first tokens =>
          cases same
          exact ⟨_, rfl, derived.ifStatement keyword⟩
  | @whileStatement token _ _ _ _ _ keyword _ _ ihTest ihBody =>
      obtain ⟨test, rfl, testDerives⟩ := ihTest
      obtain ⟨body, rfl, bodyDerives⟩ := ihBody
      exact ⟨token :: (test ++ body), by simp, .whileStatement keyword testDerives bodyDerives⟩
  | @forStatement token opening element closing _ _ _ _ _ _ keyword openingKind named
      closingKind _ _ ihArray ihBody =>
      obtain ⟨array, rfl, arrayDerives⟩ := ihArray
      obtain ⟨body, rfl, bodyDerives⟩ := ihBody
      exact ⟨token :: opening :: element :: closing :: (array ++ body), by simp,
        .forStatement keyword openingKind named closingKind arrayDerives bodyDerives⟩
  | @functionStatement token callee opening closing _ _ _ _ _ _ keyword named openingKind _
      closingKind _ ihNames ihBody =>
      obtain ⟨names, rfl, namesDerive⟩ := ihNames
      obtain ⟨body, rfl, bodyDerives⟩ := ihBody
      exact ⟨token :: callee :: opening :: (names ++ closing :: body), by simp,
        .functionStatement keyword named openingKind namesDerive closingKind bodyDerives⟩
  | @returnNothing token semicolon _ keyword kind =>
      exact ⟨[token, semicolon], rfl, .returnNothing keyword kind⟩
  | @returnValue token semicolon _ _ _ keyword _ _ kind ih =>
      obtain ⟨value, rfl, derived⟩ := ih
      exact ⟨token :: (value ++ [semicolon]), by simp,
        .returnValue keyword derived.expression kind⟩
  | @importStatement token moduleToken semicolon _ _ keyword named kind =>
      exact ⟨[token, moduleToken, semicolon], rfl, .importStatement keyword named kind⟩
  | @assignment token sign semicolon _ form _ _ _ named found _ kind ih =>
      obtain ⟨value, rfl, derived⟩ := ih
      exact ⟨token :: sign :: (value ++ [semicolon]), by simp,
        .assignment named (Token.isAssignment_iff.mpr ⟨form, found⟩) derived.expression kind⟩
  | @expressionStatement first semicolon _ rest _ starts _ reading kind ih =>
      obtain ⟨value, same, derived⟩ := ih
      have notArray : leads .openBracket none value = false := by
        cases value with
        | nil => rfl
        | cons token tokens =>
            cases same
            cases other : first.kind <;> simp_all [leads, Token.fits, startsExpression]
      refine ⟨value ++ [semicolon], by simp [same], ?_⟩
      exact .expressionStatement derived.expression notArray kind

theorem Derives.primary_opens {tokens : List Token} (derives : Derives .primary tokens) :
    ∃ first rest, tokens = first :: rest ∧ opensPrimary first.kind = true := by
  cases derives with
  | unary isUnary _ => exact ⟨_, _, rfl, by rw [isUnary.1]; rfl⟩
  | int kind _ | float kind _ | string kind _ => exact ⟨_, _, rfl, by rw [kind]; rfl⟩
  | reference named => exact ⟨_, _, rfl, by rw [named.1]; rfl⟩
  | call named _ _ _ => exact ⟨_, _, rfl, by rw [named.1]; rfl⟩
  | member named _ _ _ _ _ => exact ⟨_, _, rfl, by rw [named.1]; rfl⟩
  | array kind _ _ | group kind _ _ => exact ⟨_, _, rfl, by rw [kind]; rfl⟩

theorem Derives.expression_opens {tokens : List Token} (derives : Derives .expression tokens) :
    ∃ first rest, tokens = first :: rest ∧ opensPrimary first.kind = true := by
  cases derives with
  | expression head _ =>
      obtain ⟨first, rest, rfl, opens⟩ := head.primary_opens
      exact ⟨first, _, rfl, opens⟩

/-- No sign of an assignment occurs in an expression. -/
theorem Derives.no_assignment {category : Category} {tokens : List Token}
    (derives : Derives category tokens)
    (within : category = .expression ∨ category = .operations ∨ category = .primary ∨
      category = .items) :
    ∀ token ∈ tokens, assigns token.kind = false := by
  induction derives with
  | expression _ _ ihFirst ihRest =>
      simp only [List.forall_mem_append]
      exact ⟨ihFirst (by simp), ihRest (by simp)⟩
  | noOperation | noItem => simp
  | operation isBinary _ _ ihOperand ihRest =>
      simp only [List.forall_mem_cons, List.forall_mem_append]
      exact ⟨by simp [assigns, isBinary.1], ihOperand (by simp), ihRest (by simp)⟩
  | unary isUnary _ ih =>
      simp only [List.forall_mem_cons]
      exact ⟨by simp [assigns, isUnary.1], ih (by simp)⟩
  | int kind _ | float kind _ | string kind _ => simp [assigns, kind]
  | reference named => simp [assigns, named.1]
  | call named opening _ closing ih =>
      simp only [List.forall_mem_cons, List.forall_mem_append, List.not_mem_nil]
      exact ⟨by simp [assigns, named.1], by simp [assigns, opening], ih (by simp),
        by simp [assigns, closing], by simp⟩
  | member named colons calleeNamed opening _ closing ih =>
      simp only [List.forall_mem_cons, List.forall_mem_append, List.not_mem_nil]
      exact ⟨by simp [assigns, named.1], by simp [assigns, colons],
        by simp [assigns, calleeNamed.1], by simp [assigns, opening], ih (by simp),
        by simp [assigns, closing], by simp⟩
  | array opening _ closing ih | group opening _ closing ih =>
      simp only [List.forall_mem_cons, List.forall_mem_append, List.not_mem_nil]
      exact ⟨by simp [assigns, opening], ih (by simp), by simp [assigns, closing], by simp⟩
  | item _ optional _ ihNode ihRest =>
      simp only [List.forall_mem_append]
      refine ⟨ihNode (by simp), ?_, ihRest (by simp)⟩
      rcases optional with rfl | ⟨comma, rfl, kind⟩
      · simp
      · simp [assigns, kind]
  | _ => simp at within

theorem Reading.derived_of_append {phrase : Phrase} {tokens after : List Token}
    (reading : Reading phrase (tokens ++ after) after) : phrase.Derived tokens := by
  obtain ⟨segment, same, derived⟩ := reading.derived
  rwa [List.append_cancel_right same]

/-- An expression before a semicolon is read as a statement, unless it begins with a bracket. -/
theorem Reading.statement_of_expression {semicolon : Token} {value : Node}
    {tokens after : List Token}
    (reading : Reading (.expression 0 value) (tokens ++ semicolon :: after) (semicolon :: after))
    (notArray : leads .openBracket none tokens = false) (kind : semicolon.kind = .semicolon) :
    Reading (.statement (.expression value.line value)) (tokens ++ semicolon :: after) after := by
  have derives := reading.derived_of_append.expression
  obtain ⟨first, others, rfl, opens⟩ := derives.expression_opens
  have noBracket : first.kind ≠ .openBracket := by
    simpa [leads, Token.fits] using notArray
  refine .expressionStatement ?_ (fun _ => ?_) reading kind
  · simpa [opensPrimary, noBracket] using opens
  · -- The second token belongs to the expression or is the semicolon.
    cases others with
    | nil => simp [assigns, kind]
    | cons second others => simpa using derives.no_assignment (.inl rfl) second (by simp)

end Grammar

end Scriptlet
