import Scriptlet.Proofs.Grammar.Derivation

/-!
Parsing accepts exactly what the grammar derives. The commas between items are optional, so a list
of items may be derivable in several ways, while the rules always read on as far as they can: they
take a minus sign after an operand for an operator, and a parenthesis after a name for a call. What
they leave is still derivable as the end of the list, so they never get stuck on a derivable list.
-/

namespace Scriptlet

namespace Grammar

/-- What may come between an operand and the end: of the expression, or of the list where
`listed`. -/
inductive Trail : (listed : Bool) → List Token → Prop
  | done {listed : Bool} : Trail listed []
  | operation {listed : Bool} {operator : Token} {operand rest : List Token} :
      operator.IsBinary → Derives .primary operand → Trail listed rest →
      Trail listed (operator :: (operand ++ rest))
  | lastComma {comma : Token} : comma.kind = .comma → Trail true [comma]
  | comma {comma : Token} {first rest : List Token} :
      comma.kind = .comma → Derives .primary first → Trail true rest →
      Trail true (comma :: (first ++ rest))
  | item {first rest : List Token} :
      Derives .primary first → Trail true rest → Trail true (first ++ rest)

def Listed (tokens : List Token) : Prop :=
  tokens = [] ∨
    ∃ first rest, tokens = first ++ rest ∧ Derives .primary first ∧ Trail true rest

def Ends (tokens : List Token) : Prop :=
  ∃ token rest, tokens = token :: rest ∧
    (token.kind = .closeParen ∨ token.kind = .closeBracket ∨ token.kind = .semicolon)

theorem Derives.group_of_openParen {first : Token} {rest : List Token}
    (derives : Derives .primary (first :: rest)) (kind : first.kind = .openParen) :
    ∃ inner closing, rest = inner ++ [closing] ∧ Derives .expression inner ∧
      closing.kind = .closeParen := by
  cases derives with
  | group _ inner closing => exact ⟨_, _, rfl, inner, closing⟩
  | unary isUnary _ =>
      have clash := isUnary.1
      rw [kind] at clash
      cases clash
  | int other _ | float other _ | string other _ | array other _ _ =>
      rw [kind] at other
      cases other
  | reference named | call named _ _ _ | member named _ _ _ _ _ =>
      have clash := named.1
      rw [kind] at clash
      cases clash

theorem Derives.operand_of_operator {first : Token} {rest : List Token}
    (derives : Derives .primary (first :: rest)) (kind : first.kind = .operator) :
    Derives .primary rest := by
  cases derives with
  | unary _ operand => exact operand
  | int other _ | float other _ | string other _ | array other _ _ | group other _ _ =>
      rw [kind] at other
      cases other
  | reference named | call named _ _ _ | member named _ _ _ _ _ =>
      have clash := named.1
      rw [kind] at clash
      cases clash

theorem Trail.of_operations {listed : Bool} {operations rest : List Token}
    (derives : Derives .operations operations) (trail : Trail listed rest) :
    Trail listed (operations ++ rest) := by
  generalize same : Category.operations = category at derives
  induction derives with
  | noOperation => exact trail
  | operation isBinary operand _ _ ih =>
      rw [List.cons_append, List.append_assoc]
      exact .operation isBinary operand (ih same)
  | _ => cases same

theorem Trail.of_optional_comma {comma rest : List Token}
    (optional : Optional (·.kind = .comma) comma) (listed : Listed rest) :
    Trail true (comma ++ rest) := by
  rcases optional with rfl | ⟨token, rfl, kind⟩
  · rcases listed with rfl | ⟨first, others, rfl, head, trail⟩
    · exact .done
    · change Trail true (first ++ others)
      exact .item head trail
  · rcases listed with rfl | ⟨first, others, rfl, head, trail⟩
    · exact .lastComma kind
    · change Trail true (token :: (first ++ others))
      exact .comma kind head trail

theorem Derives.listed {tokens : List Token} (derives : Derives .items tokens) :
    Listed tokens := by
  generalize same : Category.items = category at derives
  induction derives with
  | noItem => exact .inl rfl
  | item node optional _ _ ih =>
      cases node with
      | expression head operations =>
          refine .inr ⟨_, _, List.append_assoc .., head, ?_⟩
          exact .of_operations operations (.of_optional_comma optional (ih same))
  | _ => cases same

theorem Listed.of_expression {tokens : List Token} (derives : Derives .expression tokens) :
    Listed tokens := by
  have items := Derives.item derives (.inl rfl) .noItem
  simpa using items.listed

/-- An operator after an operand is followed by another operand, also where the derivation takes it
for the sign of the next item. -/
theorem Trail.operand {listed : Bool} {operator : Token} {rest : List Token}
    (trail : Trail listed (operator :: rest)) (kind : operator.kind = .operator) :
    ∃ operand more, rest = operand ++ more ∧ Derives .primary operand ∧ Trail listed more := by
  generalize same : operator :: rest = tokens at trail
  cases trail with
  | done => cases same
  | operation _ operand more =>
      cases same
      exact ⟨_, _, rfl, operand, more⟩
  | lastComma other | comma other _ _ =>
      cases same
      rw [kind] at other
      cases other
  | item head more =>
      obtain ⟨first, others, rfl, _⟩ := head.primary_opens
      cases same
      exact ⟨_, _, rfl, head.operand_of_operator kind, more⟩

/-- After a name comes no double colon, and a parenthesis only with the group that it opens. -/
theorem Trail.separate_or_group {listed : Bool} {rest stop : List Token}
    (trail : Trail listed rest) (ends : Ends stop) :
    Separate (rest ++ stop) ∨ ∃ opening inner closing more,
      rest = opening :: (inner ++ closing :: more) ∧ opening.kind = .openParen ∧
        Derives .expression inner ∧ closing.kind = .closeParen ∧ Trail listed more := by
  cases trail with
  | done =>
      obtain ⟨token, others, rfl, kinds⟩ := ends
      left
      intro head found
      cases found
      rcases kinds with kind | kind | kind <;> simp [kind]
  | operation isBinary _ _ =>
      left
      intro head found
      cases found
      simp [isBinary.1]
  | lastComma kind | comma kind _ _ =>
      left
      intro head found
      cases found
      simp [kind]
  | item head more =>
      obtain ⟨first, others, rfl, opens⟩ := head.primary_opens
      by_cases group : first.kind = .openParen
      · obtain ⟨inner, closing, rfl, derives, kind⟩ := head.group_of_openParen group
        exact .inr ⟨first, inner, closing, _, by simp, group, derives, kind, more⟩
      · left
        intro head found
        cases found
        refine ⟨group, fun colons => ?_⟩
        rw [colons] at opens
        cases opens

theorem Trail.eq_nil_of_settled {rest stop : List Token} (trail : Trail false rest)
    (settled : Settled 0 (rest ++ stop)) : rest = [] := by
  cases trail with
  | done => rfl
  | operation isBinary _ _ =>
      obtain ⟨op, precedence, found⟩ := Token.isBinary_iff.mp isBinary
      exact absurd (settled _ _ _ rfl found) (Nat.not_lt_zero _)

theorem leads_listed {first : Token} {rest stop : List Token} {close : Token.Kind}
    (opens : opensPrimary first.kind = true) (ends : Ends stop)
    (closes : leads close none stop = true) : leads close none (first :: rest) = false := by
  obtain ⟨token, others, rfl, kinds⟩ := ends
  have kind : token.kind = close := Token.fits_kind.mp closes
  simp only [leads, List.head?_cons, Option.any_some, Option.map_none, Bool.eq_false_iff]
  intro fits
  rw [Token.fits_kind.mp fits, ← kind] at opens
  rcases kinds with other | other | other <;> rw [other] at opens <;> cases opens

theorem Trail.skip_comma {left stop : List Token} (trail : Trail true left)
    (settled : Settled 0 (left ++ stop)) (ends : Ends stop) :
    ∃ tokens, skip .comma none (left ++ stop) = tokens ++ stop ∧ Listed tokens ∧
      tokens.length ≤ left.length := by
  cases trail with
  | done =>
      obtain ⟨token, others, rfl, kinds⟩ := ends
      refine ⟨[], skip_of_kind_ne none ?_, .inl rfl, Nat.le_refl _⟩
      rcases kinds with kind | kind | kind <;> simp [kind]
  | operation isBinary _ _ =>
      obtain ⟨op, precedence, found⟩ := Token.isBinary_iff.mp isBinary
      exact absurd (settled _ _ _ rfl found) (Nat.not_lt_zero _)
  | lastComma kind =>
      refine ⟨[], ?_, .inl rfl, Nat.zero_le _⟩
      simp [skip, leads, Token.fits, kind]
  | @comma _ first rest kind head more =>
      refine ⟨first ++ rest, ?_, .inr ⟨first, rest, rfl, head, more⟩, by simp⟩
      simp [skip, leads, Token.fits, kind]
  | @item first rest head more =>
      refine ⟨first ++ rest, ?_, .inr ⟨first, rest, rfl, head, more⟩, Nat.le_refl _⟩
      obtain ⟨token, others, rfl, opens⟩ := head.primary_opens
      refine skip_of_kind_ne none fun comma => ?_
      rw [comma] at opens
      cases opens

/-- Expressions of up to `bound` tokens are read, at any floor, up to where no operator at the
floor comes next. -/
def ReadsExpressions (bound : Nat) : Prop :=
  ∀ (listed : Bool) (floor : Nat) (first rest stop : List Token),
    (first ++ rest).length ≤ bound → Derives .primary first → Trail listed rest → Ends stop →
      ∃ node left, Reading (.expression floor node) (first ++ (rest ++ stop)) (left ++ stop) ∧
        Trail listed left ∧ Settled floor (left ++ stop)

section Bounded

variable {bound : Nat} (reads : ReadsExpressions bound)

include reads

theorem expression_read {tokens stop : List Token} (short : tokens.length ≤ bound)
    (derives : Derives .expression tokens) (ends : Ends stop) :
    ∃ node, Reading (.expression 0 node) (tokens ++ stop) stop := by
  cases derives with
  | expression head operations =>
      have trail : Trail false _ := .of_operations operations .done
      rw [List.append_nil] at trail
      obtain ⟨node, left, reading, leftTrail, settled⟩ :=
        reads false 0 _ _ stop short head trail ends
      obtain rfl := leftTrail.eq_nil_of_settled settled
      rw [List.append_assoc]
      exact ⟨node, reading⟩

theorem items_read {close : Token.Kind} {stop : List Token} (ends : Ends stop)
    (closes : leads close none stop = true) : ∀ {tokens : List Token},
    tokens.length ≤ bound → Listed tokens →
      ∃ nodes, Reading (.items close nodes) (tokens ++ stop) stop := by
  intro tokens short listed
  generalize size : tokens.length = length
  induction length using Nat.strongRecOn generalizing tokens with
  | ind length ih =>
      rcases listed with rfl | ⟨first, rest, rfl, head, trail⟩
      · exact ⟨[], .noItem (.inr closes)⟩
      · obtain ⟨node, left, reading, leftTrail, settled⟩ :=
          reads true 0 first rest stop short head trail ends
        have shorter := reading.length_le
        obtain ⟨tokens, skipped, others, within⟩ := leftTrail.skip_comma settled ends
        simp only [List.length_append, Phrase.least] at shorter short size
        obtain ⟨nodes, tail⟩ := ih tokens.length (by omega) (by omega) others rfl
        obtain ⟨token, more, rfl, opens⟩ := head.primary_opens
        rw [← skipped] at tail
        rw [List.append_assoc]
        exact ⟨node :: nodes, .item (leads_listed opens ends closes) reading tail⟩

theorem bracketed_read {first last : Token} {opening close : Token.Kind}
    {tokens after : List Token} (short : tokens.length ≤ bound) (listed : Listed tokens)
    (openingKind : first.kind = opening) (closingKind : last.kind = close)
    (ends : Ends (last :: after)) :
    ∃ nodes, Reading (.bracketed opening close nodes) (first :: (tokens ++ last :: after)) after := by
  have closes : leads close none (last :: after) = true := Token.fits_kind.mpr closingKind
  obtain ⟨nodes, reading⟩ := items_read reads ends closes short listed
  exact ⟨nodes, .bracketed openingKind reading closingKind⟩

theorem name_read {token : Token} {name : String} {listed : Bool} {rest stop : List Token}
    (short : rest.length ≤ bound) (named : token.Named name) (trail : Trail listed rest)
    (ends : Ends stop) :
    ∃ node left, Reading (.primary node) (token :: (rest ++ stop)) (left ++ stop) ∧
      Trail listed left := by
  rcases trail.separate_or_group ends with separate | ⟨opening, inner, closing, more, rfl,
    openingKind, derives, closingKind, moreTrail⟩
  · exact ⟨_, rest, .reference named separate, trail⟩
  · simp only [List.cons_append, List.append_assoc, List.length_cons, List.length_append]
      at short ⊢
    obtain ⟨arguments, reading⟩ := bracketed_read reads (by omega) (.of_expression derives)
      openingKind closingKind ⟨closing, more ++ stop, rfl, .inl closingKind⟩
    exact ⟨_, more, .call named reading, moreTrail⟩

theorem primary_read {listed : Bool} {first rest stop : List Token}
    (short : (first ++ rest).length ≤ bound + 1) (derives : Derives .primary first)
    (trail : Trail listed rest) (ends : Ends stop) :
    ∃ node left, Reading (.primary node) (first ++ (rest ++ stop)) (left ++ stop) ∧
      Trail listed left := by
  cases derives with
  | unary isUnary operand =>
      simp only [List.cons_append, List.length_cons] at short
      obtain ⟨node, left, reading, leftTrail, _⟩ :=
        reads listed Operator.unaryPrecedence _ rest stop (by omega) operand trail ends
      obtain ⟨text, payload⟩ : ∃ text, _ = some (Token.Payload.text text) := by
        rcases isUnary.2 with payload | payload
        · exact ⟨_, payload⟩
        · exact ⟨_, payload⟩
      have signed := (Token.isUnary_iff isUnary.1 payload).mp isUnary
      exact ⟨_, left, .unary isUnary.1 payload signed reading, leftTrail⟩
  | int kind payload => exact ⟨_, rest, .int kind payload, trail⟩
  | float kind payload => exact ⟨_, rest, .float kind payload, trail⟩
  | string kind payload => exact ⟨_, rest, .string kind payload, trail⟩
  | reference named =>
      simp only [List.cons_append, List.nil_append, List.length_cons] at short ⊢
      exact name_read reads (by omega) named trail ends
  | call named openingKind items closingKind =>
      simp only [List.cons_append, List.append_assoc, List.nil_append, List.length_cons,
        List.length_append] at short ⊢
      obtain ⟨arguments, reading⟩ := bracketed_read reads (by omega) items.listed openingKind
        closingKind ⟨_, rest ++ stop, rfl, .inl closingKind⟩
      exact ⟨_, rest, .call named reading, trail⟩
  | member named colonsKind calleeNamed openingKind items closingKind =>
      simp only [List.cons_append, List.append_assoc, List.nil_append, List.length_cons,
        List.length_append] at short ⊢
      obtain ⟨arguments, reading⟩ := bracketed_read reads (by omega) items.listed openingKind
        closingKind ⟨_, rest ++ stop, rfl, .inl closingKind⟩
      exact ⟨_, rest, .member named colonsKind calleeNamed reading, trail⟩
  | array openingKind items closingKind =>
      simp only [List.cons_append, List.append_assoc, List.nil_append, List.length_cons,
        List.length_append] at short ⊢
      obtain ⟨elements, reading⟩ := bracketed_read reads (by omega) items.listed openingKind
        closingKind ⟨_, rest ++ stop, rfl, .inr (.inl closingKind)⟩
      exact ⟨_, rest, .array reading, trail⟩
  | group openingKind inner closingKind =>
      simp only [List.cons_append, List.append_assoc, List.nil_append, List.length_cons,
        List.length_append] at short ⊢
      obtain ⟨node, reading⟩ := expression_read reads (by omega) inner
        ⟨_, rest ++ stop, rfl, .inl closingKind⟩
      exact ⟨node, rest, .group openingKind reading closingKind, trail⟩

theorem climb_read {listed : Bool} {floor : Nat} {stop : List Token} (ends : Ends stop) :
    ∀ {rest : List Token} (start : Node), rest.length ≤ bound + 1 → Trail listed rest →
      ∃ node left, Reading (.climb floor start node) (rest ++ stop) (left ++ stop) ∧
        Trail listed left ∧ Settled floor (left ++ stop) := by
  intro rest start short trail
  generalize size : rest.length = length
  induction length using Nat.strongRecOn generalizing rest start with
  | ind length ih =>
      by_cases settled : Settled floor (rest ++ stop)
      · exact ⟨start, rest, .settle settled, trail, settled⟩
      · obtain ⟨token, op, precedence, head, operator, above⟩ :
            ∃ token op precedence, (rest ++ stop).head? = some token ∧
              binaryOperator? token = some (op, precedence) ∧ floor ≤ precedence := by
          simpa [Settled] using settled
        have kind := (Token.binaryOperator_eq_some.mp operator).1
        cases rest with
        | nil =>
            obtain ⟨last, others, rfl, kinds⟩ := ends
            cases head
            rcases kinds with other | other | other <;> rw [kind] at other <;> cases other
        | cons first rest =>
            cases head
            obtain ⟨operand, more, rfl, derives, moreTrail⟩ := trail.operand kind
            simp only [List.length_cons] at short size
            obtain ⟨right, left, reading, leftTrail, _⟩ :=
              reads listed precedence operand more stop (by omega) derives moreTrail ends
            have shorter := reading.length_le
            simp only [List.length_append, Phrase.least] at shorter short size
            obtain ⟨node, last, climb, lastTrail, lastSettled⟩ :=
              ih left.length (by omega) (.binary token.line op start right) (by omega) leftTrail rfl
            refine ⟨node, last, ?_, lastTrail, lastSettled⟩
            rw [List.cons_append, List.append_assoc]
            exact .fold operator above reading climb

end Bounded

theorem readsExpressions (bound : Nat) : ReadsExpressions bound := by
  induction bound with
  | zero =>
      intro listed floor first rest stop short head
      obtain ⟨token, more, rfl, _⟩ := head.primary_opens
      simp at short
  | succ bound reads =>
      intro listed floor first rest stop short head trail ends
      obtain ⟨start, middle, primary, middleTrail⟩ := primary_read reads short head trail ends
      have shorter := primary.length_le
      simp only [List.length_append, Phrase.least] at shorter short
      obtain ⟨node, left, climb, leftTrail, settled⟩ :=
        climb_read reads ends start (by omega) middleTrail
      exact ⟨node, left, .expression primary climb, leftTrail, settled⟩

theorem Derives.expression_reading {tokens stop : List Token}
    (derives : Derives .expression tokens) (ends : Ends stop) :
    ∃ node, Reading (.expression 0 node) (tokens ++ stop) stop :=
  expression_read (readsExpressions tokens.length) (Nat.le_refl _) derives ends

def Category.Read : Category → List Token → Prop
  | .statements, tokens => ∀ rest, rest = [] ∨ leads .closeBrace none rest = true →
      ∃ nodes, Reading (.statements nodes) (tokens ++ rest) rest
  | .statement, tokens => ∀ rest, Branchless rest →
      ∃ node, Reading (.statement node) (tokens ++ rest) rest
  | .branches, tokens => ∀ rest, Branchless rest →
      ∃ elseNode, Reading (.branches elseNode) (tokens ++ rest) rest
  | .condition, tokens => ∀ rest, ∃ node, Reading (.condition node) (tokens ++ rest) rest
  | .block, tokens => ∀ rest, ∃ node, Reading (.block node) (tokens ++ rest) rest
  | .parameters, tokens => ∀ closing rest, closing.kind = .closeParen →
      ∃ names, Reading (.parameters names) (tokens ++ closing :: rest) (closing :: rest)
  | .expression, tokens => ∀ rest, Ends rest →
      ∃ node, Reading (.expression 0 node) (tokens ++ rest) rest
  | .operations, _ | .primary, _ | .items, _ => True

theorem conditional_read {ifKeyword test body branches : List Token}
    (optional : Optional (·.IsKeyword "if") ifKeyword) (testRead : Category.condition.Read test)
    (bodyRead : Category.block.Read body) (branchesRead : Category.branches.Read branches)
    (rest : List Token) (branchless : Branchless rest) :
    ∃ node, Reading (.conditional node)
      (ifKeyword ++ (test ++ (body ++ (branches ++ rest)))) rest := by
  obtain ⟨testNode, testReading⟩ := testRead (body ++ (branches ++ rest))
  obtain ⟨bodyNode, bodyReading⟩ := bodyRead (branches ++ rest)
  obtain ⟨elseNode, branchesReading⟩ := branchesRead rest branchless
  obtain ⟨line, reading⟩ :=
    Reading.conditional_of_optional optional testReading bodyReading branchesReading
  exact ⟨_, reading⟩

theorem Derives.read {category : Category} {tokens : List Token}
    (derives : Derives category tokens) : category.Read tokens := by
  induction derives with
  | noStatement => exact fun rest closed => ⟨[], .noStatement closed⟩
  | statements _ _ ihHead ihTail =>
      intro rest closed
      obtain ⟨nodes, tail⟩ := ihTail rest closed
      obtain ⟨node, reading⟩ := ihHead _ tail.statements_branchless
      rw [List.append_assoc]
      exact ⟨node :: nodes, .statements reading.statement_opens.1 reading tail⟩
  | @ifStatement keyword _ _ _ isKeyword _ _ _ ihTest ihBody ihBranches =>
      intro rest branchless
      have optional : Optional (·.IsKeyword "if") [keyword] := .inr ⟨keyword, rfl, isKeyword⟩
      obtain ⟨node, reading⟩ :=
        conditional_read optional ihTest ihBody ihBranches rest branchless
      refine ⟨node, ?_⟩
      simpa using Reading.ifStatement isKeyword reading
  | whileStatement isKeyword _ _ ihTest ihBody =>
      intro rest _
      obtain ⟨test, testReading⟩ := ihTest _
      obtain ⟨body, bodyReading⟩ := ihBody rest
      rw [List.cons_append, List.append_assoc]
      exact ⟨_, .whileStatement isKeyword testReading bodyReading⟩
  | forStatement isKeyword openingKind named closingKind _ _ ihArray ihBody =>
      intro rest _
      obtain ⟨array, arrayReading⟩ := ihArray _
      obtain ⟨body, bodyReading⟩ := ihBody rest
      simp only [List.cons_append, List.append_assoc]
      exact ⟨_, .forStatement isKeyword openingKind named closingKind arrayReading bodyReading⟩
  | @functionStatement _ _ _ closing _ _ _ isKeyword named openingKind _ closingKind _ ihNames
      ihBody =>
      intro rest _
      obtain ⟨body, bodyReading⟩ := ihBody rest
      obtain ⟨names, namesReading⟩ := ihNames closing _ closingKind
      simp only [List.cons_append, List.append_assoc]
      exact ⟨_, .functionStatement isKeyword named openingKind namesReading closingKind
        bodyReading⟩
  | returnNothing isKeyword kind => exact fun rest _ => ⟨_, .returnNothing isKeyword kind⟩
  | @returnValue _ semicolon _ isKeyword derives kind _ =>
      intro rest _
      obtain ⟨value, reading⟩ :=
        derives.expression_reading ⟨semicolon, rest, rfl, .inr (.inr kind)⟩
      simp only [List.cons_append, List.append_assoc, List.nil_append]
      exact ⟨_, .returnValue isKeyword (reading.leads_expression rfl) reading kind⟩
  | importStatement isKeyword named kind =>
      exact fun rest _ => ⟨_, .importStatement isKeyword named kind⟩
  | @assignment _ _ semicolon _ _ named isAssignment derives kind _ =>
      intro rest _
      obtain ⟨form, found⟩ := Token.isAssignment_iff.mp isAssignment
      obtain ⟨value, reading⟩ :=
        derives.expression_reading ⟨semicolon, rest, rfl, .inr (.inr kind)⟩
      simp only [List.cons_append, List.append_assoc, List.nil_append]
      exact ⟨_, .assignment named found reading kind⟩
  | @expressionStatement semicolon _ derives notArray kind _ =>
      intro rest _
      obtain ⟨value, reading⟩ :=
        derives.expression_reading ⟨semicolon, rest, rfl, .inr (.inr kind)⟩
      rw [List.append_assoc]
      exact ⟨_, reading.statement_of_expression notArray kind⟩
  | noBranch => exact fun rest branchless => ⟨none, .noBranch branchless.1 branchless.2⟩
  | elifBranch isKeyword optional _ _ _ ihTest ihBody ihBranches =>
      intro rest branchless
      obtain ⟨node, reading⟩ :=
        conditional_read optional ihTest ihBody ihBranches rest branchless
      refine ⟨some node, ?_⟩
      simpa using Reading.elifBranch isKeyword reading
  | elseBranch isKeyword _ ihBody =>
      intro rest _
      obtain ⟨body, reading⟩ := ihBody rest
      exact ⟨some body, .elseBranch isKeyword reading⟩
  | @condition _ closing _ openingKind derives closingKind _ =>
      intro rest
      obtain ⟨node, reading⟩ :=
        derives.expression_reading ⟨closing, rest, rfl, .inl closingKind⟩
      simp only [List.cons_append, List.append_assoc, List.nil_append]
      exact ⟨node, .condition openingKind reading closingKind⟩
  | @block opening closing _ openingKind _ closingKind ih =>
      intro rest
      obtain ⟨nodes, reading⟩ := ih (closing :: rest) (.inr (Token.fits_kind.mpr closingKind))
      obtain ⟨line, reading⟩ := Reading.block_of_statements openingKind reading closingKind
      rw [List.cons_append, List.append_assoc]
      exact ⟨_, reading⟩
  | noParameter => exact fun closing rest kind => ⟨[], .noParameter kind⟩
  | parameter named optional _ ih =>
      intro closing rest kind
      obtain ⟨names, reading⟩ := ih closing rest kind
      rw [List.cons_append, List.append_assoc]
      exact ⟨_, reading.parameter_of_optional named optional⟩
  | expression head tail _ _ =>
      exact fun rest ends => (Derives.expression head tail).expression_reading ends
  | _ => trivial

theorem derives_iff_reading {tokens : List Token} :
    Derives .statements tokens ↔ ∃ nodes, Reading (.statements nodes) tokens [] := by
  constructor
  · intro derives
    simpa using derives.read [] (.inl rfl)
  · rintro ⟨nodes, reading⟩
    obtain ⟨segment, same, derived⟩ := reading.derived
    rw [List.append_nil] at same
    exact same ▸ derived

end Grammar

namespace Node

open Grammar

/-- Where the recursion limit is not reached, parsing succeeds exactly on the derivable token
lists, and fails on every other with a fault of syntax. An ample limit is not reached. -/
theorem parse_accepts_iff_derives (tokens : List Token) (file : Option String) (limit : Nat) :
    (ampleLimit tokens ≤ limit → WithinLimit limit tokens file) ∧
    (WithinLimit limit tokens file →
      ((∃ tree, (Node.parse limit tokens file).1 = .ok tree) ↔ Derives .statements tokens) ∧
      (¬ Derives .statements tokens → ∃ fault, (Node.parse limit tokens file).1 = .error fault ∧
        fault.cause.isSyntactic = true ∧ fault.cause.title = "ParseException")) := by
  refine ⟨withinLimit_of_ample, fun within => ?_⟩
  have accepts : (∃ tree, (Node.parse limit tokens file).1 = .ok tree) ↔
      Derives .statements tokens := by
    rw [derives_iff_reading]
    constructor
    · rintro ⟨tree, parsed⟩
      obtain ⟨nodes, _, reading, _⟩ := reading_of_parse parsed
      exact ⟨nodes, reading⟩
    · rintro ⟨nodes, reading⟩
      exact ⟨_, parse_of_reading reading within⟩
  refine ⟨accepts, fun underivable => ?_⟩
  cases result : (Node.parse limit tokens file).1 with
  | ok tree => exact absurd (accepts.mp ⟨tree, result⟩) underivable
  | error fault =>
      have syntactic := (fault_of_parse result).resolve_right (within fault result)
      exact ⟨fault, rfl, syntactic, fault.cause.title_of_syntactic syntactic⟩

/-- The tokens of `f(1 -2 (3));`, whose items stand without commas. -/
def unseparatedCall : List Token :=
  [⟨.identifier, some (.text "f"), 1⟩, ⟨.openParen, none, 1⟩,
    ⟨.integer, some (.integer 1), 1⟩, ⟨.operator, some (.text "-"), 1⟩,
    ⟨.integer, some (.integer 2), 1⟩, ⟨.openParen, none, 1⟩, ⟨.integer, some (.integer 3), 1⟩,
    ⟨.closeParen, none, 1⟩, ⟨.closeParen, none, 1⟩, ⟨.semicolon, none, 1⟩]

theorem parse_accepts_unseparatedCall :
    WithinLimit 48 unseparatedCall none ∧
    (∃ tree, (Node.parse 48 unseparatedCall none).1 = .ok tree) ∧
    Derives .statements unseparatedCall := by
  have parsed : ∃ tree, (Node.parse 48 unseparatedCall none).1 = .ok tree := ⟨_, rfl⟩
  obtain ⟨ample, accepts⟩ := parse_accepts_iff_derives unseparatedCall none 48
  have within := ample (by decide)
  exact ⟨within, parsed, (accepts within).1.mp parsed⟩

end Node

end Scriptlet
