import Scriptlet.Proofs.Grammar.Soundness

/-!
How runs of the rules end. Whatever a rule ends in, it has moved the cursor forward over the same
tokens; a fault it halts with is about the grammar and lies at the line reached. A rule halts for
want of depth only if it may nest less deep than the tokens ahead can call for.
-/

namespace Scriptlet

structure Cursor.Moves (cursor later : Cursor) : Prop where
  sameTokens : later.tokens = cursor.tokens
  sameOverrun : later.overrun = cursor.overrun
  sameFile : later.file = cursor.file
  onward : later.ahead.length ≤ cursor.ahead.length

theorem Cursor.Moves.refl (cursor : Cursor) : cursor.Moves cursor :=
  ⟨rfl, rfl, rfl, Nat.le_refl _⟩

theorem Cursor.Moves.trans {first second third : Cursor} (head : first.Moves second)
    (tail : second.Moves third) : first.Moves third :=
  ⟨tail.sameTokens.trans head.sameTokens, tail.sameOverrun.trans head.sameOverrun,
    tail.sameFile.trans head.sameFile, Nat.le_trans tail.onward head.onward⟩

theorem Cursor.moves_advance {cursor : Cursor} (more : cursor.ahead ≠ []) :
    cursor.Moves cursor.advance := by
  unfold Cursor.advance
  cases ahead : cursor.ahead with
  | nil => exact absurd ahead more
  | cons token rest => exact ⟨by simp [Cursor.tokens, ahead], rfl, rfl, by simp [ahead]⟩

theorem Cursor.moves_take (cursor : Cursor) : cursor.Moves cursor.take.2 := by
  unfold Cursor.take Cursor.peek?
  cases ahead : cursor.ahead with
  | nil => exact .refl cursor
  | cons token rest => exact moves_advance (by simp [ahead])

theorem Cursor.moves_accept (cursor : Cursor) (kind : Token.Kind)
    (payload : Option Token.Payload) : cursor.Moves (cursor.accept kind payload).2 := by
  unfold Cursor.accept Cursor.peek?
  cases ahead : cursor.ahead with
  | nil => exact .refl cursor
  | cons token rest =>
      dsimp only [List.head?_cons]
      split
      · exact moves_advance (by simp [ahead])
      · exact .refl cursor

def Cause.isSyntactic : Cause → Bool
  | .nestingTooDeep => false
  | cause => cause.stage == .parsing

theorem Cause.title_of_syntactic {cause : Cause} (syntactic : cause.isSyntactic = true) :
    cause.title = "ParseException" := by
  cases cause <;> first | rfl | cases syntactic | skip
  case stated stage message => cases stage <;> first | rfl | cases syntactic

namespace Grammar

open Scriptlet.Parser

/-- Whether a halt is a fault of the grammar at the line reached, or, where `deep` holds, a want
of depth. -/
def Halt.Proper (deep : Prop) (cursor : Cursor) : Halt → Prop
  | .fault met => met = cursor.fault met.cause ∧ met.cause.isSyntactic = true
  | .tooDeep => deep

structure Conducts {α : Type} (parser : Parser α) (state : State) (deep : Prop) : Prop where
  moves : state.cursor.Moves (parser.outcome state).2.cursor
  halts : ∀ halt, (parser.outcome state).1 = .error halt →
    halt.Proper deep (parser.outcome state).2.cursor

variable {α β : Type} {state : State} {deep : Prop}

theorem Conducts.bind {parser : Parser α} {next : α → Parser β}
    (head : Conducts parser state deep)
    (tail : ∀ result reached, parser.Yields state result reached →
      reached.cursor.ahead.length ≤ state.cursor.ahead.length →
        Conducts (next result) reached deep) :
    Conducts (parser >>= next) state deep := by
  obtain ⟨moves, halts⟩ := head
  have opened := outcome_bind parser next state
  rcases ended : parser.outcome state with ⟨halt | result, reached⟩
  · rw [ended] at opened moves halts
    refine ⟨?_, ?_⟩
    · rw [opened]
      exact moves
    · rw [opened]
      intro other same
      cases same
      exact halts halt rfl
  · rw [ended] at opened moves
    obtain ⟨tailMoves, tailHalts⟩ := tail result reached ended moves.onward
    refine ⟨?_, ?_⟩
    · rw [opened]
      exact moves.trans tailMoves
    · rw [opened]
      exact tailHalts

theorem conducts_still {parser : Parser α} {result : α} {next : State}
    (run : parser.Yields state result next) (still : state.cursor.Moves next.cursor) :
    Conducts parser state deep := by
  unfold Yields at run
  refine ⟨?_, fun halt ended => ?_⟩
  · rw [run]
    exact still
  · rw [run] at ended
    cases ended

theorem conducts_pure (result : α) : Conducts (pure result : Parser α) state deep :=
  conducts_still rfl (.refl _)

theorem conducts_peek : Conducts peek? state deep :=
  conducts_still rfl (.refl _)

theorem conducts_remaining : Conducts remaining state deep :=
  conducts_still rfl (.refl _)

theorem conducts_nextKind : Conducts nextKind? state deep :=
  conducts_still rfl (.refl _)

theorem conducts_noteStart (token : Token) : Conducts (noteStart token) state deep :=
  conducts_still rfl (.refl _)

theorem conducts_advance {token : Token} (head : state.cursor.ahead.head? = some token) :
    Conducts advance state deep := by
  refine conducts_still rfl (Cursor.moves_advance ?_)
  intro empty
  simp [empty] at head

theorem conducts_take : Conducts take? state deep :=
  conducts_still rfl (Cursor.moves_take _)

theorem conducts_accept (kind : Token.Kind) (text : Option String) :
    Conducts (accept kind text) state deep :=
  conducts_still rfl (Cursor.moves_accept _ _ _)

theorem conducts_fail {cause : Cause} (syntactic : cause.isSyntactic = true) :
    Conducts (fail cause : Parser α) state deep := by
  refine ⟨.refl _, fun halt ended => ?_⟩
  cases ended
  exact ⟨rfl, syntactic⟩

theorem conducts_tooDeep (holds : deep) : Conducts (tooDeep : Parser α) state deep := by
  refine ⟨.refl _, fun halt ended => ?_⟩
  cases ended
  exact holds

theorem conducts_expect (kind : Token.Kind) : Conducts (expect kind) state deep := by
  have opened := outcome_expect kind state
  unfold Cursor.expect at opened
  have moves := Cursor.moves_take state.cursor
  rcases taken : state.cursor.take with ⟨_ | token, cursor⟩
  · simp only [taken] at opened moves
    refine ⟨by rw [opened]; exact moves, fun halt ended => ?_⟩
    rw [opened] at ended ⊢
    cases ended
    exact ⟨rfl, rfl⟩
  · simp only [taken] at opened moves
    by_cases fitting : token.fits kind none = true
    · simp only [fitting, if_true] at opened
      refine ⟨by rw [opened]; exact moves, fun halt ended => ?_⟩
      rw [opened] at ended
      cases ended
    · simp only [fitting] at opened
      refine ⟨by rw [opened]; exact moves, fun halt ended => ?_⟩
      rw [opened] at ended ⊢
      cases ended
      exact ⟨rfl, rfl⟩

theorem conducts_expectName : Conducts expectName state deep := by
  unfold expectName
  refine (conducts_expect _).bind fun token reached _ _ => ?_
  split
  · exact conducts_pure _
  · exact conducts_fail rfl

theorem conducts_currentLine : Conducts currentLine state deep := by
  unfold currentLine
  refine conducts_peek.bind fun found reached _ _ => ?_
  cases found with
  | none => exact conducts_still rfl (.refl _)
  | some token => exact conducts_pure _

theorem conducts_itemsUntil {close : Token.Kind} {item : Parser Node} {bound : Nat}
    (itemConducts : ∀ state : State, state.cursor.ahead.length ≤ bound →
      Conducts item state deep)
    (rounds : List Token) (within : state.cursor.ahead.length ≤ bound) :
    Conducts (itemsUntil close item rounds) state deep := by
  induction rounds generalizing state with
  | nil =>
      rw [itemsUntil]
      exact conducts_pure _
  | cons _ rounds ih =>
      rw [itemsUntil]
      refine conducts_peek.bind fun found reached _ onward => ?_
      cases found with
      | none => exact conducts_pure _
      | some token =>
          dsimp only
          split
          · exact conducts_pure _
          · refine (itemConducts _ (by omega)).bind fun node later _ further => ?_
            exact (ih (by omega)).bind fun nodes _ _ _ => conducts_pure _

theorem conducts_commaItem {item : Parser Node} (itemConducts : Conducts item state deep) :
    Conducts (commaItem item) state deep := by
  unfold commaItem
  refine itemConducts.bind fun node _ _ _ => ?_
  exact (conducts_accept _ _).bind fun _ _ _ _ => conducts_pure _

section Rules

variable {item body : Parser Node} {bound : Nat}

theorem expect_shortens {kind : Token.Kind} {token : Token} {reached : State}
    (run : (expect kind).Yields state token reached) :
    reached.cursor.ahead.length < state.cursor.ahead.length := by
  rw [(expect_yields run).1]
  exact Nat.lt_succ_self _

theorem conducts_bracketed (opening close : Token.Kind)
    (itemConducts : ∀ state : State, state.cursor.ahead.length < bound →
      Conducts item state deep)
    (within : state.cursor.ahead.length ≤ bound) :
    Conducts (bracketed opening close item) state deep := by
  unfold bracketed
  refine (conducts_expect _).bind fun first opened expected _ => ?_
  have shorter := expect_shortens expected
  refine conducts_remaining.bind fun tokens reached _ onward => ?_
  refine Conducts.bind (conducts_itemsUntil (fun state fits => ?_) tokens onward)
    fun nodes last _ _ => ?_
  · exact conducts_commaItem (itemConducts state (by omega))
  · exact (conducts_expect _).bind fun _ _ _ _ => conducts_pure _

theorem conducts_condition
    (itemConducts : ∀ state : State, state.cursor.ahead.length < bound →
      Conducts item state deep)
    (within : state.cursor.ahead.length ≤ bound) :
    Conducts (condition item) state deep := by
  unfold condition
  refine (conducts_expect _).bind fun opening opened expected _ => ?_
  have shorter := expect_shortens expected
  refine (itemConducts _ (by omega)).bind fun node _ _ _ => ?_
  exact (conducts_expect _).bind fun _ _ _ _ => conducts_pure _

theorem conducts_arrayLiteral
    (itemConducts : ∀ state : State, state.cursor.ahead.length < bound →
      Conducts item state deep)
    (within : state.cursor.ahead.length ≤ bound) :
    Conducts (arrayLiteral item) state deep :=
  (conducts_bracketed _ _ itemConducts within).bind fun _ _ _ _ => conducts_pure _

theorem conducts_functionCall
    (itemConducts : ∀ state : State, state.cursor.ahead.length < bound →
      Conducts item state deep)
    (within : state.cursor.ahead.length ≤ bound) :
    Conducts (functionCall item) state deep := by
  unfold functionCall
  refine conducts_expectName.bind fun name named _ onward => ?_
  exact (conducts_bracketed _ _ itemConducts (by omega)).bind fun _ _ _ _ => conducts_pure _

theorem conducts_moduleAccess
    (itemConducts : ∀ state : State, state.cursor.ahead.length < bound →
      Conducts item state deep)
    (within : state.cursor.ahead.length ≤ bound) :
    Conducts (moduleAccess item) state deep := by
  unfold moduleAccess
  refine conducts_expectName.bind fun moduleName named _ onward => ?_
  refine (conducts_accept _ _).bind fun _ skipped _ further => ?_
  refine conducts_expectName.bind fun name called _ last => ?_
  exact (conducts_bracketed _ _ itemConducts (by omega)).bind fun _ _ _ _ => conducts_pure _

theorem conducts_climb {operand : Nat → Parser Node}
    (operandConducts : ∀ floor (state : State), state.cursor.ahead.length < bound →
      Conducts (operand floor) state deep)
    (floor : Nat) (rounds : List Token) (left : Node)
    (within : state.cursor.ahead.length ≤ bound) :
    Conducts (climb operand floor rounds left) state deep := by
  induction rounds generalizing state left with
  | nil =>
      rw [climb]
      exact conducts_pure _
  | cons _ rounds ih =>
      rw [climb]
      refine conducts_peek.bind fun found _ peeked _ => ?_
      obtain ⟨head, rfl⟩ := peek_yields peeked
      cases found with
      | none => exact conducts_pure _
      | some token =>
          dsimp only
          split
          · exact conducts_pure _
          · split
            · exact conducts_pure _
            · refine (conducts_advance head).bind fun _ advanced moved _ => ?_
              have tail := congrArg List.length (advance_yields moved)
              rw [ahead_of_head head, List.tail_cons] at tail
              rw [ahead_of_head head, List.length_cons] at within
              refine (operandConducts _ _ (by omega)).bind fun right reached _ onward => ?_
              exact ih _ (by omega)

theorem conducts_primary {depth : Nat}
    (expressionConducts : ∀ floor (state : State), state.cursor.ahead.length < bound →
      Conducts (expression depth floor) state deep)
    (within : state.cursor.ahead.length ≤ bound) :
    Conducts (primary (depth + 1)) state deep := by
  rw [primary]
  refine conducts_peek.bind fun found _ peeked _ => ?_
  obtain ⟨head, rfl⟩ := peek_yields peeked
  cases found with
  | none => exact conducts_fail rfl
  | some token =>
      have inner {advanced : State} (moved : advance.Yields state () advanced) :
          advanced.cursor.ahead.length < bound := by
        have tail := congrArg List.length (advance_yields moved)
        rw [ahead_of_head head, List.tail_cons] at tail
        rw [ahead_of_head head, List.length_cons] at within
        omega
      dsimp only
      split
      · split
        · refine (conducts_advance head).bind fun _ advanced moved _ => ?_
          exact (expressionConducts _ _ (inner moved)).bind fun _ _ _ _ => conducts_pure _
        · exact conducts_fail rfl
      · exact conducts_arrayLiteral (expressionConducts 0) within
      · exact (conducts_advance head).bind fun _ _ _ _ => conducts_pure _
      · exact (conducts_advance head).bind fun _ _ _ _ => conducts_pure _
      · exact (conducts_advance head).bind fun _ _ _ _ => conducts_pure _
      · refine conducts_nextKind.bind fun following _ looked _ => ?_
        obtain ⟨_, rfl⟩ := nextKind_yields looked
        split
        · exact conducts_functionCall (expressionConducts 0) within
        · exact conducts_moduleAccess (expressionConducts 0) within
        · exact (conducts_advance head).bind fun _ _ _ _ => conducts_pure _
      · refine (conducts_advance head).bind fun _ advanced moved _ => ?_
        refine (expressionConducts _ _ (inner moved)).bind fun _ _ _ _ => ?_
        exact (conducts_expect _).bind fun _ _ _ _ => conducts_pure _
      · exact conducts_fail rfl

theorem conducts_expression_succ {depth : Nat} (primaryConducts : Conducts (primary depth) state deep)
    (operandConducts : ∀ floor (state : State), state.cursor.ahead.length < bound →
      Conducts (expression depth floor) state deep)
    (floor : Nat) (within : state.cursor.ahead.length ≤ bound) :
    Conducts (expression (depth + 1) floor) state deep := by
  rw [expression]
  refine primaryConducts.bind fun left reached _ onward => ?_
  refine conducts_remaining.bind fun tokens _ remained _ => ?_
  obtain ⟨_, rfl⟩ := remaining_yields remained
  exact conducts_climb operandConducts floor _ left (by omega)

/-- An expression wants for depth only below two levels for each token ahead, and two more. -/
theorem primary_expression_conduct (depth : Nat) : ∀ (bound : Nat) (state : State),
    state.cursor.ahead.length ≤ bound →
      (2 * bound + 1 ≤ depth ∨ deep → Conducts (primary depth) state deep) ∧
      (2 * bound + 2 ≤ depth ∨ deep → ∀ floor, Conducts (expression depth floor) state deep) := by
  induction depth with
  | zero =>
      intro bound state within
      refine ⟨fun enough => ?_, fun enough floor => ?_⟩
      · rw [primary]
        exact conducts_tooDeep (enough.resolve_left (by omega))
      · rw [expression]
        exact conducts_tooDeep (enough.resolve_left (by omega))
  | succ depth ih =>
      intro bound state within
      have inner (enough : 2 * bound ≤ depth ∨ deep) (floor : Nat) (later : State)
          (shorter : later.cursor.ahead.length < bound) :
          Conducts (expression depth floor) later deep := by
        refine (ih (bound - 1) later (by omega)).2 ?_ floor
        exact enough.imp (by omega) id
      refine ⟨fun enough => ?_, fun enough floor => ?_⟩
      · exact conducts_primary (inner (enough.imp (by omega) id)) within
      · refine conducts_expression_succ ?_ (inner (enough.imp (by omega) id)) floor within
        exact (ih bound state within).1 (enough.imp (by omega) id)

theorem conducts_parameters (rounds : List Token) :
    ∀ state : State, Conducts (parameters rounds) state deep := by
  induction rounds with
  | nil =>
      intro state
      rw [parameters]
      exact conducts_fail rfl
  | cons _ rounds ih =>
      intro state
      rw [parameters]
      refine conducts_peek.bind fun found _ peeked _ => ?_
      obtain ⟨head, rfl⟩ := peek_yields peeked
      cases found with
      | none => exact conducts_fail rfl
      | some token =>
          dsimp only
          split
          · exact conducts_pure _
          · split
            · exact conducts_fail rfl
            · refine (conducts_advance head).bind fun _ _ _ _ => ?_
              refine (conducts_accept _ _).bind fun _ _ _ _ => ?_
              exact (ih _).bind fun _ _ _ _ => conducts_pure _

section Statements

variable (itemConducts : ∀ state : State, state.cursor.ahead.length ≤ bound →
    Conducts item state deep)
  (bodyConducts : ∀ state : State, state.cursor.ahead.length < bound → Conducts body state deep)
  (itemMakes : Makes item (.expression 0)) (within : state.cursor.ahead.length ≤ bound)

include itemConducts within

theorem conducts_expressionStatement : Conducts (expressionStatement item) state deep := by
  unfold expressionStatement
  refine (itemConducts _ within).bind fun value _ _ _ => ?_
  exact (conducts_expect _).bind fun _ _ _ _ => conducts_pure _

theorem conducts_assignment : Conducts (assignment item) state deep := by
  unfold assignment
  refine conducts_expectName.bind fun name named _ onward => ?_
  refine conducts_take.bind fun taken signed _ further => ?_
  cases taken with
  | none => exact conducts_fail rfl
  | some sign =>
      dsimp only
      split
      · exact conducts_fail rfl
      · refine (itemConducts _ (by omega)).bind fun value _ _ _ => ?_
        exact (conducts_expect _).bind fun _ _ _ _ => conducts_pure _

theorem conducts_plainStatement (token : Token) :
    Conducts (plainStatement item token) state deep := by
  unfold plainStatement
  refine conducts_nextKind.bind fun following _ looked _ => ?_
  obtain ⟨_, rfl⟩ := nextKind_yields looked
  split
  · exact conducts_assignment itemConducts within
  · split
    · exact conducts_expressionStatement itemConducts within
    · exact conducts_fail rfl

theorem conducts_returnStatement : Conducts (returnStatement item) state deep := by
  unfold returnStatement
  refine conducts_currentLine.bind fun line reached _ onward => ?_
  refine (conducts_accept _ _).bind fun _ entered _ further => ?_
  refine conducts_peek.bind fun found _ peeked _ => ?_
  obtain ⟨_, rfl⟩ := peek_yields peeked
  cases found with
  | none => exact conducts_fail rfl
  | some following =>
      dsimp only
      split
      · exact (conducts_expect _).bind fun _ _ _ _ => conducts_pure _
      · refine (itemConducts _ (by omega)).bind fun value _ _ _ => ?_
        exact (conducts_expect _).bind fun _ _ _ _ => conducts_pure _

include bodyConducts itemMakes

theorem conducts_whileLoop : Conducts (whileLoop item body) state deep := by
  unfold whileLoop
  refine conducts_currentLine.bind fun line reached _ onward => ?_
  refine (conducts_accept _ _).bind fun _ entered _ further => ?_
  refine Conducts.bind (conducts_condition (fun later shorter =>
    itemConducts later (Nat.le_of_lt shorter)) (by omega)) fun test tested testRun _ => ?_
  have shorter := (condition_makes itemMakes _ _ _ testRun).length_le
  simp only [Phrase.least] at shorter
  exact (bodyConducts _ (by omega)).bind fun _ _ _ _ => conducts_pure _

theorem conducts_forLoop : Conducts (forLoop item body) state deep := by
  unfold forLoop
  refine conducts_currentLine.bind fun line reached _ onward => ?_
  refine (conducts_accept _ _).bind fun _ entered _ further => ?_
  refine (conducts_expect _).bind fun opening opened _ after => ?_
  refine conducts_take.bind fun taken named _ last => ?_
  cases taken with
  | none => exact conducts_fail rfl
  | some element =>
      dsimp only
      split
      · exact conducts_fail rfl
      · refine (conducts_expect _).bind fun closing closed _ finished => ?_
        refine Conducts.bind (conducts_condition (fun later shorter =>
          itemConducts later (Nat.le_of_lt shorter)) (by omega)) fun array arrayed arrayRun _ => ?_
        have shorter := (condition_makes itemMakes _ _ _ arrayRun).length_le
        simp only [Phrase.least] at shorter
        exact (bodyConducts _ (by omega)).bind fun _ _ _ _ => conducts_pure _

omit itemConducts itemMakes

theorem conducts_functionDefinition : Conducts (functionDefinition body) state deep := by
  unfold functionDefinition
  refine (conducts_accept _ _).bind fun _ entered _ onward => ?_
  refine conducts_expectName.bind fun name named _ further => ?_
  refine (conducts_expect _).bind fun opening opened expected _ => ?_
  have shorter := expect_shortens expected
  refine conducts_remaining.bind fun tokens reached _ after => ?_
  refine (conducts_parameters _ _).bind fun names last _ lastOnward => ?_
  refine (conducts_expect _).bind fun closing closed _ closedOnward => ?_
  exact (bodyConducts _ (by omega)).bind fun _ _ _ _ => conducts_pure _

end Statements

theorem conducts_importStatement : Conducts importStatement state deep := by
  unfold importStatement
  refine (conducts_accept _ _).bind fun _ entered _ _ => ?_
  refine conducts_take.bind fun taken named _ _ => ?_
  cases taken with
  | none => exact conducts_fail rfl
  | some moduleToken =>
      dsimp only
      split
      · exact conducts_fail rfl
      · exact (conducts_expect _).bind fun _ _ _ _ => conducts_pure _

theorem conducts_sequence {depth : Nat}
    (statementConducts : ∀ state : State, state.cursor.ahead.length ≤ bound →
      Conducts (statement depth) state deep)
    (within : state.cursor.ahead.length ≤ bound) :
    Conducts (sequence (depth + 1)) state deep := by
  rw [sequence]
  refine conducts_currentLine.bind fun line reached _ onward => ?_
  refine conducts_remaining.bind fun tokens later _ further => ?_
  refine Conducts.bind (conducts_itemsUntil statementConducts tokens (by omega))
    fun nodes _ _ _ => conducts_pure _

theorem conducts_block {depth : Nat}
    (sequenceConducts : ∀ state : State, state.cursor.ahead.length < bound →
      Conducts (sequence depth) state deep)
    (within : state.cursor.ahead.length ≤ bound) :
    Conducts (block (depth + 1)) state deep := by
  rw [block]
  refine (conducts_expect _).bind fun opening opened expected _ => ?_
  have shorter := expect_shortens expected
  refine (sequenceConducts _ (by omega)).bind fun inner _ _ _ => ?_
  exact (conducts_expect _).bind fun _ _ _ _ => conducts_pure _

theorem conducts_branching {depth line : Nat} {test thenBlock : Node}
    (conditionalConducts : ∀ state : State, state.cursor.ahead.length ≤ bound →
      Conducts (conditional depth) state deep)
    (blockConducts : ∀ state : State, state.cursor.ahead.length ≤ bound →
      Conducts (block depth) state deep)
    (within : state.cursor.ahead.length ≤ bound) :
    Conducts (branching depth line test thenBlock) state deep := by
  unfold branching
  refine (conducts_accept _ _).bind fun _ afterElif _ onward => ?_
  split
  · exact (conditionalConducts _ (by omega)).bind fun _ _ _ _ => conducts_pure _
  · refine (conducts_accept _ _).bind fun _ afterElse _ further => ?_
    split
    · exact (blockConducts _ (by omega)).bind fun _ _ _ _ => conducts_pure _
    · exact conducts_pure _

theorem conducts_conditional {depth : Nat}
    (itemConducts : ∀ state : State, state.cursor.ahead.length < bound →
      Conducts (expression depth 0) state deep)
    (conditionalConducts : ∀ state : State, state.cursor.ahead.length + 3 ≤ bound →
      Conducts (conditional depth) state deep)
    (blockConducts : ∀ state : State, state.cursor.ahead.length + 3 ≤ bound →
      Conducts (block depth) state deep)
    (within : state.cursor.ahead.length ≤ bound) :
    Conducts (conditional (depth + 1)) state deep := by
  rw [conditional_succ]
  refine conducts_currentLine.bind fun line reached _ onward => ?_
  refine (conducts_accept _ _).bind fun _ entered _ further => ?_
  refine Conducts.bind (conducts_condition itemConducts (by omega)) fun test tested testRun _ => ?_
  have shorter := (condition_makes (expression_makes depth 0) _ _ _ testRun).length_le
  simp only [Phrase.least] at shorter
  have deepest : tested.cursor.ahead.length + 3 ≤ bound := by omega
  refine (blockConducts _ deepest).bind fun thenBlock last _ lastOnward => ?_
  exact conducts_branching (fun later short => conditionalConducts later (by omega))
    (fun later short => blockConducts later (by omega)) lastOnward

theorem conducts_statement {depth : Nat}
    (itemConducts : ∀ state : State, state.cursor.ahead.length ≤ bound →
      Conducts (expression depth 0) state deep)
    (conditionalConducts : ∀ state : State, state.cursor.ahead.length ≤ bound →
      Conducts (conditional depth) state deep)
    (blockConducts : ∀ state : State, state.cursor.ahead.length < bound →
      Conducts (block depth) state deep)
    (within : state.cursor.ahead.length ≤ bound) :
    Conducts (statement (depth + 1)) state deep := by
  have itemMakes := expression_makes depth 0
  rw [statement]
  refine conducts_peek.bind fun found reached _ onward => ?_
  cases found with
  | none => exact conducts_fail rfl
  | some token =>
      refine (conducts_noteStart _).bind fun _ noted _ further => ?_
      have notedWithin : noted.cursor.ahead.length ≤ bound := by omega
      split
      · split
        · exact conditionalConducts _ notedWithin
        · exact conducts_whileLoop itemConducts blockConducts itemMakes notedWithin
        · exact conducts_forLoop itemConducts blockConducts itemMakes notedWithin
        · exact conducts_functionDefinition blockConducts notedWithin
        · exact conducts_returnStatement itemConducts notedWithin
        · exact conducts_importStatement
        · exact conducts_fail rfl
      · exact conducts_plainStatement itemConducts notedWithin token

/-- Statements want for depth only below two levels for each token ahead, and a few more. -/
theorem statement_rules_conduct (depth : Nat) : ∀ (bound : Nat) (state : State),
    state.cursor.ahead.length ≤ bound →
      (2 * bound + 4 ≤ depth ∨ deep → Conducts (sequence depth) state deep) ∧
      (2 * bound + 3 ≤ depth ∨ deep → Conducts (block depth) state deep) ∧
      (2 * bound + 1 ≤ depth ∨ deep → Conducts (conditional depth) state deep) ∧
      (2 * bound + 3 ≤ depth ∨ deep → Conducts (statement depth) state deep) := by
  induction depth with
  | zero =>
      intro bound state within
      refine ⟨fun enough => ?_, fun enough => ?_, fun enough => ?_, fun enough => ?_⟩
      · rw [sequence]
        exact conducts_tooDeep (enough.resolve_left (by omega))
      · rw [block]
        exact conducts_tooDeep (enough.resolve_left (by omega))
      · rw [conditional]
        exact conducts_tooDeep (enough.resolve_left (by omega))
      · rw [statement]
        exact conducts_tooDeep (enough.resolve_left (by omega))
  | succ depth ih =>
      intro bound state within
      refine ⟨fun enough => ?_, fun enough => ?_, fun enough => ?_, fun enough => ?_⟩
      · refine conducts_sequence (fun later short => ?_) within
        exact (ih bound later short).2.2.2 (enough.imp (by omega) id)
      · refine conducts_block (fun later short => ?_) within
        exact (ih (bound - 1) later (by omega)).1 (enough.imp (by omega) id)
      · refine conducts_conditional (fun later short => ?_) (fun later short => ?_)
          (fun later short => ?_) within
        · exact (primary_expression_conduct depth (bound - 1) later (by omega)).2
            (enough.imp (by omega) id) 0
        · exact (ih (bound - 3) later (by omega)).2.2.1 (enough.imp (by omega) id)
        · exact (ih (bound - 3) later (by omega)).2.1 (enough.imp (by omega) id)
      · refine conducts_statement (fun later short => ?_) (fun later short => ?_)
          (fun later short => ?_) within
        · exact (primary_expression_conduct depth bound later short).2
            (enough.imp (by omega) id) 0
        · exact (ih bound later short).2.2.1 (enough.imp (by omega) id)
        · exact (ih (bound - 1) later (by omega)).2.1 (enough.imp (by omega) id)

end Rules

theorem conducts_program {depth : Nat}
    (enough : 2 * state.cursor.ahead.length + 4 ≤ depth ∨ deep) :
    Conducts (program depth) state deep := by
  unfold program
  refine Conducts.bind ((statement_rules_conduct depth _ state (Nat.le_refl _)).1 enough)
    fun node reached _ _ => ?_
  refine conducts_peek.bind fun found _ _ _ => ?_
  cases found with
  | none => exact conducts_pure _
  | some token => exact conducts_fail rfl

end Grammar

end Scriptlet
