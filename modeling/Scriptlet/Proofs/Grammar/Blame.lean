import Scriptlet.Proofs.Grammar.Progress

/-!
What a parse error points at. Some faults name the token that was consumed last, some the token that
comes next, and some are about the end of the tokens. Whichever it is, the cursor stands there when
the fault is met, and the fault has the line of the token consumed last.
-/

namespace Scriptlet

/-- Whether the tokens around the cursor are as a cause says: the token it names is just before the
cursor or just after it, or, if it is about the end, none comes after. -/
def Cause.Between (before after : Option Token) : Cause → Prop
  | .expected _ (some token) | .badElementName token | .badModuleName token
  | .badAssignment token => before = some token
  | .unexpectedInExpression token | .unexpectedStatement token | .badParameter token
  | .outsideBlock token => after = some token
  | .strayKeyword text =>
      ∃ token, after = some token ∧ token.kind = .keyword ∧ token.text?.getD "None" = text
  | .expected _ none | .outOfTokens _ => after = none
  | .nestingTooDeep => True
  | _ => False

namespace Grammar

open Scriptlet.Parser

variable {α β : Type} {state next : State}

def Blames (parser : Parser α) (state : State) : Prop :=
  ∀ fault next, parser.outcome state = (.error (.fault fault), next) →
    fault.cause.Between next.cursor.consumed.head? next.cursor.ahead.head?

theorem Blames.bind {parser : Parser α} {after : α → Parser β} (head : Blames parser state)
    (tail : ∀ result reached, parser.Yields state result reached → Blames (after result) reached) :
    Blames (parser >>= after) state := by
  intro fault next failed
  rw [outcome_bind] at failed
  rcases ended : parser.outcome state with ⟨halt | result, reached⟩
  · rw [ended] at failed
    cases failed
    exact head fault next ended
  · rw [ended] at failed
    exact tail result reached ended fault next failed

theorem blames_of_yields {parser : Parser α} {result : α} (run : parser.Yields state result next) :
    Blames parser state := by
  intro fault last failed
  rw [run] at failed
  cases failed

theorem blames_pure (result : α) : Blames (pure result) state :=
  blames_of_yields rfl

theorem blames_peek : Blames peek? state :=
  blames_of_yields rfl

theorem blames_advance : Blames advance state :=
  blames_of_yields rfl

theorem blames_take : Blames take? state :=
  blames_of_yields rfl

theorem blames_accept (kind : Token.Kind) (text : Option String) :
    Blames (accept kind text) state :=
  blames_of_yields rfl

theorem blames_tooDeep : Blames (tooDeep : Parser α) state := by
  intro fault last failed
  cases failed

theorem blames_fail {cause : Cause}
    (placed : cause.Between state.cursor.consumed.head? state.cursor.ahead.head?) :
    Blames (fail cause : Parser α) state := by
  intro fault last failed
  cases failed
  exact placed

theorem blames_currentLine : Blames currentLine state := by
  refine blames_peek.bind fun found _ _ => ?_
  cases found with
  | none => exact blames_of_yields rfl
  | some token => exact blames_pure _

theorem take_consumes {found : Option Token} (run : take?.Yields state found next) :
    ∀ token ∈ found, next.cursor.consumed.head? = some token := by
  cases run
  dsimp only [Cursor.take, Cursor.peek?]
  cases ahead : state.cursor.ahead with
  | nil => simp
  | cons token rest => simp [ahead, Cursor.advance]

theorem take_at_end (run : take?.Yields state none next) : next.cursor.ahead.head? = none := by
  obtain ⟨head, ahead⟩ := take_yields run
  rw [ahead, List.head?_eq_none_iff.mp head]
  rfl

theorem expect_consumes {kind : Token.Kind} {token : Token}
    (run : (expect kind).Yields state token next) :
    next.cursor.consumed.head? = some token := by
  obtain ⟨rest, ahead⟩ : ∃ rest, state.cursor.ahead = token :: rest := ⟨_, (expect_yields run).1⟩
  unfold Yields at run
  rw [outcome_expect] at run
  simp only [Cursor.expect, Cursor.take, Cursor.peek?, ahead, List.head?_cons] at run
  split at run
  · cases run
    simp [Cursor.advance, ahead]
  · cases run

/-- A token that does not fit has been consumed when it is found fault with. -/
theorem blames_expect (kind : Token.Kind) : Blames (expect kind) state := by
  intro fault last failed
  rw [outcome_expect] at failed
  unfold Cursor.expect Cursor.take Cursor.peek? at failed
  cases ahead : state.cursor.ahead with
  | nil =>
      simp only [ahead, List.head?_nil] at failed
      cases failed
      simp [Cause.Between, Cursor.fault, ahead]
  | cons first rest =>
      simp only [ahead, List.head?_cons] at failed
      split at failed
      · cases failed
      · cases failed
        simp [Cause.Between, Cursor.fault, Cursor.advance, ahead]

theorem blames_expectName : Blames expectName state := by
  unfold expectName
  refine (blames_expect _).bind fun token reached expected => ?_
  split
  · exact blames_pure _
  · exact blames_fail (expect_consumes expected)

theorem blames_itemsUntil (close : Token.Kind) {item : Parser Node}
    (itemBlames : ∀ state, Blames item state) (rounds : List Token) (state : State) :
    Blames (itemsUntil close item rounds) state := by
  induction rounds generalizing state with
  | nil =>
      rw [itemsUntil]
      exact blames_pure _
  | cons _ rounds ih =>
      rw [itemsUntil]
      refine blames_peek.bind fun found reached _ => ?_
      cases found with
      | none => exact blames_pure _
      | some token =>
          dsimp only
          split
          · exact blames_pure _
          · refine (itemBlames reached).bind fun first later _ => ?_
            exact (ih later).bind fun others _ _ => blames_pure _

section Arguments

variable {item body : Parser Node} (itemBlames : ∀ state, Blames item state)
  (bodyBlames : ∀ state, Blames body state) (state : State)

include itemBlames

theorem blames_commaItem : Blames (commaItem item) state :=
  (itemBlames state).bind fun _ _ _ => (blames_accept _ _).bind fun _ _ _ => blames_pure _

theorem blames_bracketed (opening close : Token.Kind) :
    Blames (bracketed opening close item) state := by
  refine (blames_expect _).bind fun first _ _ => ?_
  refine Blames.bind (blames_of_yields rfl) fun rounds reached _ => ?_
  have items := blames_itemsUntil close (blames_commaItem itemBlames) rounds reached
  exact items.bind fun _ _ _ => (blames_expect _).bind fun _ _ _ => blames_pure _

theorem blames_arrayLiteral : Blames (arrayLiteral item) state :=
  (blames_bracketed itemBlames state _ _).bind fun _ _ _ => blames_pure _

theorem blames_functionCall : Blames (functionCall item) state :=
  blames_expectName.bind fun _ named _ =>
    (blames_bracketed itemBlames named _ _).bind fun _ _ _ => blames_pure _

theorem blames_moduleAccess : Blames (moduleAccess item) state :=
  blames_expectName.bind fun _ _ _ => (blames_accept _ _).bind fun _ _ _ =>
    blames_expectName.bind fun _ named _ =>
      (blames_bracketed itemBlames named _ _).bind fun _ _ _ => blames_pure _

theorem blames_condition : Blames (condition item) state :=
  (blames_expect _).bind fun _ opened _ => (itemBlames opened).bind fun _ _ _ =>
    (blames_expect _).bind fun _ _ _ => blames_pure _

theorem blames_expressionStatement : Blames (expressionStatement item) state :=
  (itemBlames state).bind fun _ _ _ => (blames_expect _).bind fun _ _ _ => blames_pure _

theorem blames_returnStatement : Blames (returnStatement item) state := by
  refine blames_currentLine.bind fun line _ _ => ?_
  refine (blames_accept _ _).bind fun _ entered _ => ?_
  refine blames_peek.bind fun found _ peeked => ?_
  obtain ⟨head, rfl⟩ := peek_yields peeked
  cases found with
  | none => exact blames_fail head
  | some following =>
      dsimp only
      split
      · exact (blames_expect _).bind fun _ _ _ => blames_pure _
      · refine (itemBlames entered).bind fun value _ _ => ?_
        exact (blames_expect _).bind fun _ _ _ => blames_pure _

theorem blames_assignment : Blames (assignment item) state := by
  refine blames_expectName.bind fun name _ _ => ?_
  refine blames_take.bind fun taken signed taking => ?_
  cases taken with
  | none => exact blames_fail (take_at_end taking)
  | some sign =>
      dsimp only
      split
      · exact blames_fail (take_consumes taking sign rfl)
      · refine (itemBlames signed).bind fun value _ _ => ?_
        exact (blames_expect _).bind fun _ _ _ => blames_pure _

theorem blames_plainStatement {token : Token} (head : state.cursor.ahead.head? = some token) :
    Blames (plainStatement item token) state := by
  refine Blames.bind (blames_of_yields rfl) fun following _ looked => ?_
  obtain ⟨_, rfl⟩ := nextKind_yields looked
  split
  · exact blames_assignment itemBlames state
  · split
    · exact blames_expressionStatement itemBlames state
    · exact blames_fail head

include bodyBlames

theorem blames_whileLoop : Blames (whileLoop item body) state :=
  blames_currentLine.bind fun _ _ _ => (blames_accept _ _).bind fun _ entered _ =>
    (blames_condition itemBlames entered).bind fun _ tested _ =>
      (bodyBlames tested).bind fun _ _ _ => blames_pure _

theorem blames_forLoop : Blames (forLoop item body) state := by
  refine blames_currentLine.bind fun line _ _ => ?_
  refine (blames_accept _ _).bind fun _ _ _ => ?_
  refine (blames_expect _).bind fun opening _ _ => ?_
  refine blames_take.bind fun taken _ taking => ?_
  cases taken with
  | none => exact blames_fail (take_at_end taking)
  | some element =>
      dsimp only
      split
      · exact blames_fail (take_consumes taking element rfl)
      · refine (blames_expect _).bind fun closing closed _ => ?_
        refine (blames_condition itemBlames closed).bind fun array arrayed _ => ?_
        exact (bodyBlames arrayed).bind fun _ _ _ => blames_pure _

end Arguments

/-- With a round for each token ahead, parameters are out of tokens only at the end. -/
theorem blames_parameters {rounds : List Token} {state : State}
    (enough : state.cursor.ahead.length ≤ rounds.length) : Blames (parameters rounds) state := by
  induction rounds generalizing state with
  | nil =>
      rw [parameters]
      refine blames_fail ?_
      rw [List.eq_nil_of_length_eq_zero (Nat.le_zero.mp enough)]
      rfl
  | cons _ rounds ih =>
      rw [parameters]
      refine blames_peek.bind fun found _ peeked => ?_
      obtain ⟨head, rfl⟩ := peek_yields peeked
      cases found with
      | none => exact blames_fail head
      | some token =>
          dsimp only
          split
          · exact blames_pure _
          · split
            · exact blames_fail head
            · refine blames_advance.bind fun _ advanced moved => ?_
              refine (blames_accept _ _).bind fun _ reached accepted => ?_
              have shorter := Nat.lt_of_le_of_lt (accept_keeps accepted).2
                (advance_shortens head moved)
              rw [List.length_cons] at enough
              exact (ih (by omega)).bind fun _ _ _ => blames_pure _

theorem blames_functionDefinition {body : Parser Node} (bodyBlames : ∀ state, Blames body state)
    (state : State) : Blames (functionDefinition body) state := by
  refine (blames_accept _ _).bind fun _ _ _ => ?_
  refine blames_expectName.bind fun name _ _ => ?_
  refine (blames_expect _).bind fun opening _ _ => ?_
  refine Blames.bind (blames_of_yields rfl) fun tokens _ remained => ?_
  obtain ⟨rfl, rfl⟩ := remaining_yields remained
  refine (blames_parameters (Nat.le_refl _)).bind fun names _ _ => ?_
  refine (blames_expect _).bind fun closing closed _ => ?_
  exact (bodyBlames closed).bind fun _ _ _ => blames_pure _

theorem blames_importStatement : Blames importStatement state := by
  refine (blames_accept _ _).bind fun _ _ _ => ?_
  refine blames_take.bind fun taken _ taking => ?_
  cases taken with
  | none => exact blames_fail (take_at_end taking)
  | some moduleToken =>
      dsimp only
      split
      · exact blames_fail (take_consumes taking moduleToken rfl)
      · exact (blames_expect _).bind fun _ _ _ => blames_pure _

theorem blames_climb {operand : Nat → Parser Node}
    (operandBlames : ∀ floor state, Blames (operand floor) state) (floor : Nat)
    (rounds : List Token) (left : Node) (state : State) :
    Blames (climb operand floor rounds left) state := by
  induction rounds generalizing left state with
  | nil =>
      rw [climb]
      exact blames_pure _
  | cons _ rounds ih =>
      rw [climb]
      refine blames_peek.bind fun found _ _ => ?_
      cases found with
      | none => exact blames_pure _
      | some token =>
          dsimp only
          split
          · exact blames_pure _
          · split
            · exact blames_pure _
            · refine blames_advance.bind fun _ advanced _ => ?_
              exact (operandBlames _ advanced).bind fun right reached _ => ih _ reached

theorem blames_primary {depth : Nat}
    (expressionBlames : ∀ floor state, Blames (expression depth floor) state) (state : State) :
    Blames (primary (depth + 1)) state := by
  rw [primary]
  refine blames_peek.bind fun found _ peeked => ?_
  obtain ⟨head, rfl⟩ := peek_yields peeked
  cases found with
  | none => exact blames_fail head
  | some token =>
      dsimp only
      split
      · split
        · refine blames_advance.bind fun _ advanced _ => ?_
          exact (expressionBlames _ advanced).bind fun _ _ _ => blames_pure _
        · exact blames_fail head
      · exact blames_arrayLiteral (expressionBlames 0) state
      · exact blames_advance.bind fun _ _ _ => blames_pure _
      · exact blames_advance.bind fun _ _ _ => blames_pure _
      · exact blames_advance.bind fun _ _ _ => blames_pure _
      · refine Blames.bind (blames_of_yields rfl) fun following _ looked => ?_
        obtain ⟨_, rfl⟩ := nextKind_yields looked
        split
        · exact blames_functionCall (expressionBlames 0) state
        · exact blames_moduleAccess (expressionBlames 0) state
        · exact blames_advance.bind fun _ _ _ => blames_pure _
      · refine blames_advance.bind fun _ advanced _ => ?_
        refine (expressionBlames 0 advanced).bind fun _ _ _ => ?_
        exact (blames_expect _).bind fun _ _ _ => blames_pure _
      · exact blames_fail head

theorem expression_rules_blame (depth : Nat) :
    (∀ state, Blames (primary depth) state) ∧
      ∀ floor state, Blames (expression depth floor) state := by
  induction depth with
  | zero =>
      constructor
      · intro state
        rw [primary]
        exact blames_tooDeep
      · intro floor state
        rw [expression]
        exact blames_tooDeep
  | succ depth ih =>
      obtain ⟨primaryBlames, expressionBlames⟩ := ih
      refine ⟨blames_primary expressionBlames, fun floor state => ?_⟩
      rw [expression]
      refine (primaryBlames state).bind fun left _ _ => ?_
      refine Blames.bind (blames_of_yields rfl) fun rounds reached _ => ?_
      exact blames_climb expressionBlames floor rounds left reached

theorem blames_conditional {depth : Nat} (blockBlames : ∀ state, Blames (block depth) state)
    (conditionalBlames : ∀ state, Blames (conditional depth) state) (state : State) :
    Blames (conditional (depth + 1)) state := by
  have itemBlames := (expression_rules_blame depth).2 0
  rw [conditional]
  refine blames_currentLine.bind fun line _ _ => ?_
  refine (blames_accept _ _).bind fun _ entered _ => ?_
  refine (blames_condition itemBlames entered).bind fun test tested _ => ?_
  refine (blockBlames tested).bind fun thenBlock _ _ => ?_
  refine (blames_accept _ _).bind fun another afterElif _ => ?_
  cases another with
  | true => exact (conditionalBlames afterElif).bind fun _ _ _ => blames_pure _
  | false =>
      refine (blames_accept _ _).bind fun last afterElse _ => ?_
      cases last with
      | true => exact (blockBlames afterElse).bind fun _ _ _ => blames_pure _
      | false => exact blames_pure _

theorem blames_statement {depth : Nat} (blockBlames : ∀ state, Blames (block depth) state)
    (conditionalBlames : ∀ state, Blames (conditional depth) state) (state : State) :
    Blames (statement (depth + 1)) state := by
  have itemBlames := (expression_rules_blame depth).2 0
  rw [statement]
  refine blames_peek.bind fun found _ peeked => ?_
  obtain ⟨head, rfl⟩ := peek_yields peeked
  cases found with
  | none => exact blames_fail head
  | some token =>
      refine Blames.bind (blames_of_yields rfl) fun _ noted noting => ?_
      rw [← noteStart_yields noting] at head
      split
      next kind =>
        split
        · exact conditionalBlames noted
        · exact blames_whileLoop itemBlames blockBlames noted
        · exact blames_forLoop itemBlames blockBlames noted
        · exact blames_functionDefinition blockBlames noted
        · exact blames_returnStatement itemBlames noted
        · exact blames_importStatement
        · exact blames_fail ⟨token, head, kind, rfl⟩
      next => exact blames_plainStatement itemBlames noted head

theorem statement_rules_blame (depth : Nat) :
    (∀ state, Blames (sequence depth) state) ∧ (∀ state, Blames (block depth) state) ∧
      (∀ state, Blames (conditional depth) state) ∧ ∀ state, Blames (statement depth) state := by
  induction depth with
  | zero =>
      refine ⟨?_, ?_, ?_, ?_⟩ <;> intro state
      · rw [sequence]
        exact blames_tooDeep
      · rw [block]
        exact blames_tooDeep
      · rw [conditional]
        exact blames_tooDeep
      · rw [statement]
        exact blames_tooDeep
  | succ depth ih =>
      obtain ⟨sequenceBlames, blockBlames, conditionalBlames, statementBlames⟩ := ih
      refine ⟨fun state => ?_, fun state => ?_, blames_conditional blockBlames conditionalBlames,
        blames_statement blockBlames conditionalBlames⟩
      · rw [sequence]
        refine blames_currentLine.bind fun line _ _ => ?_
        refine Blames.bind (blames_of_yields rfl) fun rounds reached _ => ?_
        exact (blames_itemsUntil _ statementBlames rounds reached).bind fun _ _ _ => blames_pure _
      · rw [block]
        refine (blames_expect _).bind fun opening opened _ => ?_
        refine (sequenceBlames opened).bind fun inner _ _ => ?_
        exact (blames_expect _).bind fun _ _ _ => blames_pure _

theorem blames_program (depth : Nat) (state : State) : Blames (program depth) state := by
  refine ((statement_rules_blame depth).1 state).bind fun node _ _ => ?_
  refine blames_peek.bind fun found _ peeked => ?_
  obtain ⟨head, rfl⟩ := peek_yields peeked
  cases found with
  | none => exact blames_pure _
  | some token => exact blames_fail head

end Grammar

namespace Node

variable {limit : Nat} {tokens : List Token} {file : Option String} {fault : Fault}

theorem between_of_parse (failed : (Node.parse limit tokens file).1 = .error fault) :
    fault.cause.Between (Node.parse limit tokens file).2.cursor.consumed.head?
      (Node.parse limit tokens file).2.cursor.ahead.head? := by
  rw [parse_eq_outcome] at failed ⊢
  rcases ended : (Grammar.program (Grammar.depthOf limit)).outcome (initial tokens file) with
    ⟨(met | _) | _, state⟩
  · rw [ended] at failed
    cases failed
    exact Grammar.blames_program _ _ _ _ ended
  · rw [ended] at failed
    cases failed
    trivial
  · rw [ended] at failed
    cases failed

/-- However parsing fails, the fault names the file and the line of the token just before the
cursor, or, where none was consumed, that of the first token, or 1 where there is none. A token that
was found in place of the expected one is the token just before the cursor. -/
theorem parse_fails_at_last_consumed
    (failed : (Node.parse limit tokens file).1 = .error fault) :
    let cursor := (Node.parse limit tokens file).2.cursor
    let before := (tokens.take cursor.index).getLast?
    cursor.tokens = tokens ∧ cursor.index ≤ tokens.length ∧
    fault.cause.title = "ParseException" ∧ fault.file = file ∧
    fault.line = some ((before.or tokens.head?).elim 1 Token.line) ∧
    fault.cause.Between before tokens[cursor.index]? := by
  intro cursor before
  have moves : (Cursor.start tokens file).Moves cursor := parse_moves limit tokens file
  have inside : cursor.overrun = 0 := moves.sameOverrun
  have same : cursor.tokens = tokens := moves.sameTokens
  obtain ⟨reached, cause⟩ := fault_of_parse_at failed
  have last : before = cursor.consumed.head? := by
    rw [← Cursor.getLast_take_tokens inside, same]
  have next : tokens[cursor.index]? = cursor.ahead.head? := by
    rw [← Cursor.getElem_tokens inside, same]
  have place := Grammar.index_add_ahead inside
  rw [same] at place
  refine ⟨same, by omega, ?_, ?_, ?_, ?_⟩
  · rcases cause with syntactic | deep
    · exact Cause.title_of_syntactic syntactic
    · rw [deep]
      rfl
  · exact (congrArg Fault.file reached).trans moves.sameFile
  · rw [last, ← same, ← Cursor.lastLine_eq]
    exact congrArg Fault.line reached
  · rw [last, next]
    exact between_of_parse failed

/-- `x := 1` on one line and `y` on the next. -/
def unterminated : List Token :=
  [⟨.identifier, some (.text "x"), 1⟩, ⟨.define, none, 1⟩, ⟨.integer, some (.integer 1), 1⟩,
    ⟨.identifier, some (.text "y"), 2⟩]

theorem parse_unterminated_fails_at_last_consumed :
    (Node.parse 100 unterminated (some "x.oko")).1 =
      .error ⟨.expected ";" (some ⟨.identifier, some (.text "y"), 2⟩), some 2, some "x.oko"⟩ ∧
    (Node.parse 100 unterminated (some "x.oko")).2.cursor.index = 4 ∧
    (unterminated.take 4).getLast? = some ⟨.identifier, some (.text "y"), 2⟩ := by
  have failed : (Node.parse 100 unterminated (some "x.oko")).1 = .error
      ⟨.expected ";" (some ⟨.identifier, some (.text "y"), 2⟩), some 2, some "x.oko"⟩ := rfl
  obtain ⟨_, _, _, _, _, between⟩ := parse_fails_at_last_consumed failed
  exact ⟨failed, rfl, between⟩

end Node

end Scriptlet
