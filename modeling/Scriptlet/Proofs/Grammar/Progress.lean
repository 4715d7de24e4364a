import Scriptlet.Proofs.Cursor
import Scriptlet.Proofs.Grammar.Ground

/-!
Progress of the rules. From any place in any tokens, each rule of the grammar ends within a number
of levels that is linear in the tokens ahead: in a fault of the grammar, or in a node for which it
has consumed tokens. Only a sequence of statements may be empty.
-/

namespace Scriptlet.Grammar

open Scriptlet.Parser

variable {α β : Type} {state next : State}

inductive Rule where
  | primary
  | expression (floor : Nat)
  | arrayLiteral
  | functionCall
  | moduleAccess
  | condition
  | sequence
  | block
  | conditional
  | statement
  | whileLoop
  | forLoop
  | functionDefinition
  | returnStatement
  | importStatement
  | assignment
  | expressionStatement
  | program

namespace Rule

def parser (depth : Nat) : Rule → Parser Node
  | primary => Grammar.primary depth
  | expression floor => Grammar.expression depth floor
  | arrayLiteral => Grammar.arrayLiteral (Grammar.expression depth 0)
  | functionCall => Grammar.functionCall (Grammar.expression depth 0)
  | moduleAccess => Grammar.moduleAccess (Grammar.expression depth 0)
  | condition => Grammar.condition (Grammar.expression depth 0)
  | sequence => Grammar.sequence depth
  | block => Grammar.block depth
  | conditional => Grammar.conditional depth
  | statement => Grammar.statement depth
  | whileLoop => Grammar.whileLoop (Grammar.expression depth 0) (Grammar.block depth)
  | forLoop => Grammar.forLoop (Grammar.expression depth 0) (Grammar.block depth)
  | functionDefinition => Grammar.functionDefinition (Grammar.block depth)
  | returnStatement => Grammar.returnStatement (Grammar.expression depth 0)
  | importStatement => Grammar.importStatement
  | assignment => Grammar.assignment (Grammar.expression depth 0)
  | expressionStatement => Grammar.expressionStatement (Grammar.expression depth 0)
  | program => Grammar.program depth

/-- Whether a rule may succeed where it stands, having consumed nothing. -/
def mayStand : Rule → Bool
  | sequence | program => true
  | _ => false

theorem conducts (rule : Rule) {depth : Nat} {deep : Prop}
    (enough : 2 * state.cursor.ahead.length + 4 ≤ depth ∨ deep) :
    Conducts (rule.parser depth) state deep := by
  generalize count : state.cursor.ahead.length = bound at enough
  have within : state.cursor.ahead.length ≤ bound := Nat.le_of_eq count
  have items (later : State) (short : later.cursor.ahead.length ≤ bound) :
      Conducts (Grammar.expression depth 0) later deep :=
    (primary_expression_conduct depth bound later short).2 (enough.imp (by omega) id) 0
  have inner (later : State) (short : later.cursor.ahead.length < bound) :=
    items later (Nat.le_of_lt short)
  have bodies (later : State) (short : later.cursor.ahead.length < bound) :
      Conducts (Grammar.block depth) later deep :=
    (statement_rules_conduct depth bound later (Nat.le_of_lt short)).2.1
      (enough.imp (by omega) id)
  have makes := expression_makes depth 0
  obtain ⟨primaryConducts, expressionConducts⟩ :=
    primary_expression_conduct depth bound state within
  obtain ⟨sequenceConducts, blockConducts, conditionalConducts, statementConducts⟩ :=
    statement_rules_conduct depth bound state within
  cases rule with
  | primary => exact primaryConducts (enough.imp (by omega) id)
  | expression floor => exact expressionConducts (enough.imp (by omega) id) floor
  | arrayLiteral => exact conducts_arrayLiteral inner within
  | functionCall => exact conducts_functionCall inner within
  | moduleAccess => exact conducts_moduleAccess inner within
  | condition => exact conducts_condition inner within
  | sequence => exact sequenceConducts enough
  | block => exact blockConducts (enough.imp (by omega) id)
  | conditional => exact conditionalConducts (enough.imp (by omega) id)
  | statement => exact statementConducts (enough.imp (by omega) id)
  | whileLoop => exact conducts_whileLoop items bodies makes within
  | forLoop => exact conducts_forLoop items bodies makes within
  | functionDefinition => exact conducts_functionDefinition bodies within
  | returnStatement => exact conducts_returnStatement items within
  | importStatement => exact conducts_importStatement
  | assignment => exact conducts_assignment items within
  | expressionStatement => exact conducts_expressionStatement items within
  | program => exact conducts_program (count ▸ enough)

theorem approximates (rule : Rule) (depth : Nat) :
    (rule.parser depth).Approximates (rule.parser (depth + 1)) := by
  have item := expression_approximates depth 0
  obtain ⟨sequenceCloser, blockCloser, conditionalCloser, statementCloser⟩ :=
    statement_rules_approximate depth
  cases rule with
  | primary => exact (expression_rules_approximate depth).1
  | expression floor => exact expression_approximates depth floor
  | arrayLiteral => exact arrayLiteral_approximates item
  | functionCall => exact functionCall_approximates item
  | moduleAccess => exact moduleAccess_approximates item
  | condition => exact condition_approximates item
  | sequence => exact sequenceCloser
  | block => exact blockCloser
  | conditional => exact conditionalCloser
  | statement => exact statementCloser
  | whileLoop => exact whileLoop_approximates item blockCloser
  | forLoop => exact forLoop_approximates item blockCloser
  | functionDefinition => exact functionDefinition_approximates blockCloser
  | returnStatement => exact returnStatement_approximates item
  | importStatement => exact .refl _
  | assignment => exact assignment_approximates item
  | expressionStatement => exact expressionStatement_approximates item
  | program => exact program_approximates (Nat.le_succ depth)

end Rule

def Proceeds (parser : Parser Node) : Prop :=
  ∀ state node next, parser.Yields state node next →
    next.cursor.ahead.length < state.cursor.ahead.length ∧
      ∃ token ∈ state.cursor.ahead, token.line = node.line

theorem exists_line {count : Nat} (shorter : count < state.cursor.ahead.length) :
    ∃ token ∈ state.cursor.ahead, token.line = state.line := by
  cases ahead : state.cursor.ahead with
  | nil =>
      rw [ahead] at shorter
      exact absurd shorter (Nat.not_lt_zero _)
  | cons token rest =>
      have head : state.cursor.ahead.head? = some token := by rw [ahead]; rfl
      exact ⟨token, List.mem_cons_self, (line_of_head head).symm⟩

theorem Makes.length_le {parser : Parser α} {phrase : α → Phrase} (makes : Makes parser phrase)
    {result : α} (run : parser.Yields state result next) :
    next.cursor.ahead.length + (phrase result).least ≤ state.cursor.ahead.length :=
  (makes _ _ _ run).length_le

def Phrase.root? : Phrase → Option Node
  | primary node | expression _ node | condition node | block node | conditional node
  | statement node => some node
  | _ => none

section Root

variable {phrase : Phrase} {node : Node} (root : phrase.root? = some node)

include root

theorem Phrase.least_pos : 0 < phrase.least := by
  cases phrase with
  | primary | expression | block | conditional | statement => exact Nat.one_pos
  | condition => exact Nat.succ_pos 2
  | _ => cases root

theorem Phrase.grounded_root {all : List Token} (grounded : phrase.Grounded all) :
    node.Everywhere (Node.Grounded all) := by
  cases phrase with
  | primary | expression | condition | block | conditional | statement =>
      cases root
      exact grounded
  | _ => cases root

end Root

theorem Makes.proceeds {parser : Parser Node} {phrase : Node → Phrase}
    (makes : Makes parser phrase) (rooted : ∀ node, (phrase node).root? = some node) :
    Proceeds parser := by
  intro state node next run
  have shorter := makes.length_le run
  have positive := Phrase.least_pos (rooted node)
  have grounded := (makes _ _ _ run).grounded (List.Subset.refl _)
  exact ⟨by omega, (Phrase.grounded_root (rooted node) grounded).here.line⟩

theorem accept_keeps {kind : Token.Kind} {text : Option String} {accepted : Bool}
    (run : (accept kind text).Yields state accepted next) :
    next.cursor.ahead ⊆ state.cursor.ahead ∧
      next.cursor.ahead.length ≤ state.cursor.ahead.length := by
  rw [(accept_yields run).2]
  exact ⟨skip_subset _ _ _, length_skip_le _ _ _⟩

section Rules

variable {item body : Parser Node} (itemMakes : Makes item (.expression 0))
  (bodyMakes : Makes body .block)

include itemMakes

theorem moduleAccess_proceeds : Proceeds (moduleAccess item) := by
  intro state node next run
  unfold moduleAccess at run
  obtain ⟨⟨moduleName, line⟩, named, nameRun, rest⟩ := yields_bind.mp run
  obtain ⟨token, ahead, _, _, rfl⟩ := expectName_yields nameRun
  obtain ⟨_, skipped, acceptRun, rest⟩ := yields_bind.mp rest
  obtain ⟨⟨name, callLine⟩, called, calleeRun, rest⟩ := yields_bind.mp rest
  obtain ⟨callee, calleeAhead, _, _, rfl⟩ := expectName_yields calleeRun
  obtain ⟨⟨_, arguments⟩, _, bracketedRun, finished⟩ := yields_bind.mp rest
  obtain ⟨rfl, rfl⟩ := yields_pure.mp finished
  have kept := (accept_keeps acceptRun).2
  have shorter := (bracketed_makes itemMakes bracketedRun).1.length_le
  rw [calleeAhead, List.length_cons] at kept
  rw [ahead, List.length_cons]
  exact ⟨by omega, token, List.mem_cons_self, rfl⟩

theorem expressionStatement_proceeds : Proceeds (expressionStatement item) := by
  intro state node next run
  unfold expressionStatement at run
  obtain ⟨value, valued, valueRun, rest⟩ := yields_bind.mp run
  obtain ⟨_, closed, expected, finished⟩ := yields_bind.mp rest
  obtain ⟨rfl, rfl⟩ := yields_pure.mp finished
  have shorter := itemMakes.length_le valueRun
  have last := expect_shortens expected
  have grounded := (itemMakes _ _ _ valueRun).grounded (List.Subset.refl _)
  exact ⟨by omega, grounded.here.line⟩

theorem returnStatement_proceeds : Proceeds (returnStatement item) := by
  intro state node next run
  unfold returnStatement at run
  obtain ⟨line, _, lineRun, rest⟩ := yields_bind.mp run
  obtain ⟨rfl, rfl⟩ := currentLine_yields lineRun
  obtain ⟨_, entered, acceptRun, rest⟩ := yields_bind.mp rest
  obtain ⟨found, _, peeked, rest⟩ := yields_bind.mp rest
  obtain ⟨_, rfl⟩ := peek_yields peeked
  have kept := (accept_keeps acceptRun).2
  cases found with
  | none => exact absurd rest not_yields_fail
  | some following =>
      dsimp only at rest
      split at rest
      · obtain ⟨_, closed, expected, finished⟩ := yields_bind.mp rest
        obtain ⟨rfl, rfl⟩ := yields_pure.mp finished
        have last := expect_shortens expected
        have shorter : closed.cursor.ahead.length < state.cursor.ahead.length := by omega
        exact ⟨shorter, exists_line shorter⟩
      · obtain ⟨value, valued, valueRun, rest⟩ := yields_bind.mp rest
        obtain ⟨_, closed, expected, finished⟩ := yields_bind.mp rest
        obtain ⟨rfl, rfl⟩ := yields_pure.mp finished
        have length := itemMakes.length_le valueRun
        have last := expect_shortens expected
        have shorter : closed.cursor.ahead.length < state.cursor.ahead.length := by omega
        exact ⟨shorter, exists_line shorter⟩

include bodyMakes

theorem whileLoop_proceeds : Proceeds (whileLoop item body) := by
  intro state node next run
  unfold whileLoop at run
  obtain ⟨line, _, lineRun, rest⟩ := yields_bind.mp run
  obtain ⟨rfl, rfl⟩ := currentLine_yields lineRun
  obtain ⟨_, entered, acceptRun, rest⟩ := yields_bind.mp rest
  obtain ⟨test, tested, testRun, rest⟩ := yields_bind.mp rest
  obtain ⟨inner, last, bodyRun, finished⟩ := yields_bind.mp rest
  obtain ⟨rfl, rfl⟩ := yields_pure.mp finished
  have kept := (accept_keeps acceptRun).2
  have length := (condition_makes itemMakes).length_le testRun
  have bodyLength := bodyMakes.length_le bodyRun
  simp only [Phrase.least] at length bodyLength
  have shorter : last.cursor.ahead.length < state.cursor.ahead.length := by omega
  exact ⟨shorter, exists_line shorter⟩

theorem forLoop_proceeds : Proceeds (forLoop item body) := by
  intro state node next run
  unfold forLoop at run
  obtain ⟨line, _, lineRun, rest⟩ := yields_bind.mp run
  obtain ⟨rfl, rfl⟩ := currentLine_yields lineRun
  obtain ⟨_, entered, acceptRun, rest⟩ := yields_bind.mp rest
  obtain ⟨_, opened, expected, rest⟩ := yields_bind.mp rest
  obtain ⟨taken, named, takeRun, rest⟩ := yields_bind.mp rest
  have kept := (accept_keeps acceptRun).2
  have opening := expect_shortens expected
  have tail := congrArg List.length (take_yields takeRun).2
  rw [List.length_tail] at tail
  cases taken with
  | none => exact absurd rest not_yields_fail
  | some token =>
      dsimp only at rest
      split at rest
      · exact absurd rest not_yields_fail
      · obtain ⟨_, closed, closing, rest⟩ := yields_bind.mp rest
        obtain ⟨array, arrayed, arrayRun, rest⟩ := yields_bind.mp rest
        obtain ⟨inner, last, bodyRun, finished⟩ := yields_bind.mp rest
        obtain ⟨rfl, rfl⟩ := yields_pure.mp finished
        have closingLength := expect_shortens closing
        have length := (condition_makes itemMakes).length_le arrayRun
        have bodyLength := bodyMakes.length_le bodyRun
        simp only [Phrase.least] at length bodyLength
        have shorter : last.cursor.ahead.length < state.cursor.ahead.length := by omega
        exact ⟨shorter, exists_line shorter⟩

omit itemMakes

theorem functionDefinition_proceeds : Proceeds (functionDefinition body) := by
  intro state node next run
  unfold functionDefinition at run
  obtain ⟨_, entered, acceptRun, rest⟩ := yields_bind.mp run
  obtain ⟨⟨name, line⟩, named, nameRun, rest⟩ := yields_bind.mp rest
  obtain ⟨token, ahead, _, _, rfl⟩ := expectName_yields nameRun
  obtain ⟨_, opened, expected, rest⟩ := yields_bind.mp rest
  obtain ⟨tokens, _, remained, rest⟩ := yields_bind.mp rest
  obtain ⟨_, rfl⟩ := remaining_yields remained
  obtain ⟨names, listed, namesRun, rest⟩ := yields_bind.mp rest
  obtain ⟨_, closed, closing, rest⟩ := yields_bind.mp rest
  obtain ⟨inner, last, bodyRun, finished⟩ := yields_bind.mp rest
  obtain ⟨rfl, rfl⟩ := yields_pure.mp finished
  obtain ⟨inside, kept⟩ := accept_keeps acceptRun
  have opening := expect_shortens expected
  have namesLength := (parameters_makes tokens).length_le namesRun
  have closingLength := expect_shortens closing
  have bodyLength := bodyMakes.length_le bodyRun
  rw [ahead] at inside kept
  rw [List.length_cons] at kept
  simp only [Phrase.least] at namesLength bodyLength
  exact ⟨by omega, token, inside List.mem_cons_self, rfl⟩

end Rules

theorem importStatement_proceeds : Proceeds importStatement := by
  intro state node next run
  unfold importStatement at run
  obtain ⟨_, entered, acceptRun, rest⟩ := yields_bind.mp run
  obtain ⟨taken, named, takeRun, rest⟩ := yields_bind.mp rest
  obtain ⟨head, ahead⟩ := take_yields takeRun
  obtain ⟨inside, kept⟩ := accept_keeps acceptRun
  cases taken with
  | none => exact absurd rest not_yields_fail
  | some token =>
      dsimp only at rest
      split at rest
      · exact absurd rest not_yields_fail
      · obtain ⟨_, closed, expected, finished⟩ := yields_bind.mp rest
        obtain ⟨rfl, rfl⟩ := yields_pure.mp finished
        have last := expect_shortens expected
        have tail := congrArg List.length ahead
        rw [List.length_tail] at tail
        exact ⟨by omega, token, inside (List.mem_of_mem_head? head), rfl⟩

theorem Rule.proceeds (rule : Rule) (moving : rule.mayStand = false) (depth : Nat) :
    Proceeds (rule.parser depth) := by
  have item := expression_makes depth 0
  obtain ⟨_, block, conditional, statement⟩ := statement_rules_make depth
  cases rule with
  | primary => exact (primary_expression_makes depth).1.proceeds fun _ => rfl
  | expression floor => exact (expression_makes depth floor).proceeds fun _ => rfl
  | arrayLiteral => exact (arrayLiteral_makes item).proceeds fun _ => rfl
  | functionCall => exact (functionCall_makes item).proceeds fun _ => rfl
  | moduleAccess => exact moduleAccess_proceeds item
  | condition => exact (condition_makes item).proceeds fun _ => rfl
  | sequence | program => cases moving
  | block => exact block.proceeds fun _ => rfl
  | conditional => exact conditional.proceeds fun _ => rfl
  | statement => exact statement.proceeds fun _ => rfl
  | whileLoop => exact whileLoop_proceeds item block
  | forLoop => exact forLoop_proceeds item block
  | functionDefinition => exact functionDefinition_proceeds block
  | returnStatement => exact returnStatement_proceeds item
  | importStatement => exact importStatement_proceeds
  | assignment => exact (assignment_makes item).proceeds fun _ => rfl
  | expressionStatement => exact expressionStatement_proceeds item

/-- A loop that does not run out of rounds: with one for each token ahead, more change nothing. -/
def Unhurried (loop : (rounds : List Token) → Parser α) : Prop :=
  ∀ (state : State) (rounds more : List Token), state.cursor.ahead.length ≤ rounds.length →
    state.cursor.ahead.length ≤ more.length →
      (loop rounds).outcome state = (loop more).outcome state

theorem outcome_bind_congr {parser : Parser α} {after other : α → Parser β}
    (same : ∀ result reached, parser.Yields state result reached →
      (after result).outcome reached = (other result).outcome reached) :
    Parser.outcome (parser >>= after) state = Parser.outcome (parser >>= other) state := by
  rw [outcome_bind, outcome_bind]
  rcases ended : parser.outcome state with ⟨halt | result, reached⟩
  · rfl
  · exact same result reached ended

theorem peek_at_end (finished : state.cursor.ahead = []) :
    peek?.outcome state = (.ok none, state) := by
  change ((Except.ok state.cursor.ahead.head?, state) : Except Halt (Option Token) × State) = _
  rw [finished]
  rfl

/-- It is enough that without tokens a loop ends as it does without rounds, and that it consumes a
token from one round to the next. -/
theorem unhurried_of_step (loop : β → List Token → Parser α)
    (stops : ∀ (state : State) held round rounds, state.cursor.ahead = [] →
      (loop held (round :: rounds)).outcome state = (loop held []).outcome state)
    (step : ∀ (state : State) held round other rounds more,
      (∀ (later : State) held, later.cursor.ahead.length < state.cursor.ahead.length →
        (loop held rounds).outcome later = (loop held more).outcome later) →
      (loop held (round :: rounds)).outcome state = (loop held (other :: more)).outcome state)
    (held : β) : Unhurried (loop held) := by
  intro state rounds
  induction rounds generalizing state held with
  | nil =>
      intro more enough _
      have finished := List.eq_nil_of_length_eq_zero (Nat.le_zero.mp enough)
      cases more with
      | nil => rfl
      | cons other more => exact (stops state held other more finished).symm
  | cons round rounds ih =>
      intro more enough ample
      cases more with
      | nil =>
          have finished := List.eq_nil_of_length_eq_zero (Nat.le_zero.mp ample)
          exact stops state held round rounds finished
      | cons other more =>
          refine step state held round other rounds more fun later held shorter => ?_
          rw [List.length_cons] at enough ample
          exact ih held later more (by omega) (by omega)

theorem unhurried_itemsUntil (close : Token.Kind) {item : Parser Node}
    (proceeds : Proceeds item) : Unhurried (itemsUntil close item) := by
  refine unhurried_of_step (fun _ : Unit => itemsUntil close item)
    (fun state _ round rounds finished => ?_) (fun state _ round other rounds more same => ?_) ()
  · rw [itemsUntil, itemsUntil, outcome_bind, peek_at_end finished]
  · rw [itemsUntil, itemsUntil]
    refine outcome_bind_congr fun found _ peeked => ?_
    obtain ⟨_, rfl⟩ := peek_yields peeked
    cases found with
    | none => rfl
    | some token =>
        dsimp only
        split
        · rfl
        · refine outcome_bind_congr fun first reached itemRun => ?_
          rw [outcome_bind, outcome_bind, same reached () (proceeds _ _ _ itemRun).1]

theorem commaItem_proceeds {item : Parser Node} (proceeds : Proceeds item) :
    Proceeds (commaItem item) := by
  intro state node next run
  unfold commaItem at run
  obtain ⟨_, reached, itemRun, rest⟩ := yields_bind.mp run
  obtain ⟨_, _, acceptRun, finished⟩ := yields_bind.mp rest
  obtain ⟨rfl, rfl⟩ := yields_pure.mp finished
  obtain ⟨shorter, line⟩ := proceeds _ _ _ itemRun
  exact ⟨Nat.lt_of_le_of_lt (accept_keeps acceptRun).2 shorter, line⟩

theorem advance_shortens {token : Token} {done : Unit}
    (head : state.cursor.ahead.head? = some token) (run : advance.Yields state done next) :
    next.cursor.ahead.length < state.cursor.ahead.length := by
  rw [advance_yields run, ahead_of_head head]
  exact Nat.lt_succ_self _

theorem unhurried_parameters : Unhurried parameters := by
  refine unhurried_of_step (fun _ : Unit => parameters)
    (fun state _ round rounds finished => ?_) (fun state _ round other rounds more same => ?_) ()
  · rw [parameters, parameters, outcome_bind, peek_at_end finished]
  · rw [parameters, parameters]
    refine outcome_bind_congr fun found _ peeked => ?_
    obtain ⟨head, rfl⟩ := peek_yields peeked
    cases found with
    | none => rfl
    | some token =>
        dsimp only
        split
        · rfl
        · split
          · rfl
          · refine outcome_bind_congr fun _ advanced moved => ?_
            refine outcome_bind_congr fun _ reached acceptRun => ?_
            have shorter := Nat.lt_of_le_of_lt (accept_keeps acceptRun).2
              (advance_shortens head moved)
            rw [outcome_bind, outcome_bind, same reached () shorter]

theorem unhurried_climb {operand : Nat → Parser Node}
    (proceeds : ∀ floor, Proceeds (operand floor)) (floor : Nat) (left : Node) :
    Unhurried fun rounds => climb operand floor rounds left := by
  refine unhurried_of_step (fun left rounds => climb operand floor rounds left)
    (fun state left round rounds finished => ?_)
    (fun state left round other rounds more same => ?_) left
  · rw [climb, climb, outcome_bind, peek_at_end finished]
  · rw [climb, climb]
    refine outcome_bind_congr fun found _ peeked => ?_
    obtain ⟨head, rfl⟩ := peek_yields peeked
    cases found with
    | none => rfl
    | some token =>
        dsimp only
        split
        · rfl
        · split
          · rfl
          · refine outcome_bind_congr fun _ advanced moved => ?_
            refine outcome_bind_congr fun right reached operandRun => ?_
            have shorter := Nat.lt_trans (proceeds _ _ _ _ operandRun).1
              (advance_shortens head moved)
            exact same reached _ shorter

/-- A cursor that has not moved past the end is at a place in its tokens. -/
theorem index_add_ahead {cursor : Cursor} (inside : cursor.overrun = 0) :
    cursor.index + cursor.ahead.length = cursor.tokens.length := by
  rw [Cursor.length_tokens, Cursor.index, inside, Nat.add_zero]

/-- Every rule, from every place in every list of tokens, ends in a fault of the grammar or in a
node, with the cursor no further than the end. For a node it has consumed at least one token, unless
it may stand, and then the node is on the line of a token that was there. Two levels for each token
ahead, and four more, are enough: with more levels the rule ends in the same way. (A level is a call
of one of the six rules that call each other; at most two of the other rules come in between.) The
rounds that the loops count off never run out. -/
theorem Rule.ends_with_progress (rule : Rule) (state : State)
    (inside : state.cursor.overrun = 0) {depth : Nat}
    (ample : 2 * state.cursor.ahead.length + 4 ≤ depth) :
    let ended := (rule.parser depth).outcome state
    ended.2.cursor.tokens = state.cursor.tokens ∧
    ended.2.cursor.index ≤ state.cursor.tokens.length ∧
    ((∃ fault, ended.1 = .error (.fault fault) ∧ fault.cause.title = "ParseException") ∨
      ∃ node, ended.1 = .ok node ∧ state.cursor.index ≤ ended.2.cursor.index ∧
        (rule.mayStand = false → state.cursor.index < ended.2.cursor.index ∧
          ∃ token ∈ state.cursor.ahead, token.line = node.line)) ∧
    (∀ more, depth ≤ more → (rule.parser more).outcome state = ended) ∧
    (∀ close, Unhurried (itemsUntil close (commaItem (Grammar.expression depth 0)))) ∧
    Unhurried (itemsUntil .closeBrace (Grammar.statement depth)) ∧
    Unhurried parameters ∧
    ∀ floor left, Unhurried fun rounds => climb (Grammar.expression depth) floor rounds left := by
  intro ended
  have conduct : Conducts (rule.parser depth) state False := rule.conducts (.inl ample)
  have moves : state.cursor.Moves ended.2.cursor := conduct.moves
  have place := index_add_ahead inside
  have reached := index_add_ahead (moves.sameOverrun.trans inside)
  rw [moves.sameTokens] at reached
  have onward := moves.onward
  have expressions (floor : Nat) : Proceeds (Grammar.expression depth floor) :=
    Rule.proceeds (.expression floor) rfl depth
  refine ⟨moves.sameTokens, by omega, ?_, fun more deeper => ?_, fun close => ?_, ?_,
    unhurried_parameters, fun floor left => unhurried_climb expressions floor left⟩
  · rcases finished : ended.1 with halt | node
    · have proper := conduct.halts halt finished
      cases halt with
      | fault fault => exact .inl ⟨fault, rfl, Cause.title_of_syntactic proper.2⟩
      | tooDeep => exact absurd proper id
    · refine .inr ⟨node, rfl, by omega, fun moving => ?_⟩
      obtain ⟨shorter, line⟩ :=
        rule.proceeds moving depth state node ended.2 (Prod.ext finished rfl)
      exact ⟨by omega, line⟩
  · rcases Approximates.of_le rule.approximates deeper state with halted | same
    · exact absurd (conduct.halts _ halted) id
    · exact same.symm
  · exact unhurried_itemsUntil close (commaItem_proceeds (expressions 0))
  · exact unhurried_itemsUntil _ (Rule.proceeds .statement rfl depth)

/-- `x (1) { }`, with the braces on the second line, at its first parenthesis. -/
def looseLoop : State :=
  ⟨⟨[⟨.identifier, some (.text "x"), 1⟩],
    [⟨.openParen, none, 1⟩, ⟨.integer, some (.integer 1), 1⟩, ⟨.closeParen, none, 1⟩,
      ⟨.openBrace, none, 2⟩, ⟨.closeBrace, none, 2⟩], 0, some "x.oko"⟩, []⟩

def looseLoopEnd : State :=
  ⟨⟨looseLoop.cursor.tokens.reverse, [], 0, some "x.oko"⟩, []⟩

theorem Rule.ends_with_progress_looseLoop :
    looseLoop.cursor.overrun = 0 ∧ looseLoopEnd.cursor.overrun = 0 ∧
    (∀ more, 14 ≤ more → ((Rule.whileLoop.parser more).outcome looseLoop).1 =
      .ok (.whileLoop 1 (.int 1 1) (.sequence 2 []))) ∧
    ∃ fault, ((Rule.whileLoop.parser 4).outcome looseLoopEnd).1 = .error (.fault fault) ∧
      fault.cause.title = "ParseException" := by
  obtain ⟨_, _, _, stable, _⟩ :=
    Rule.ends_with_progress .whileLoop looseLoop rfl (show 2 * 5 + 4 ≤ 14 by decide)
  obtain ⟨_, bounded, progress, _⟩ :=
    Rule.ends_with_progress .whileLoop looseLoopEnd rfl (show 2 * 0 + 4 ≤ 4 by decide)
  refine ⟨rfl, rfl, fun more enough => ?_, ?_⟩
  · rw [stable more enough]
    rfl
  · rcases progress with failed | ⟨_, _, _, moved⟩
    · exact failed
    · exact absurd (moved rfl).1 (Nat.not_lt.mpr bounded)

end Scriptlet.Grammar
