import Scriptlet.Proofs.Grammar.Delivery

/-!
Every success is a reading: whatever a rule makes, at any depth and from any state, there is a
reading for.
-/

namespace Scriptlet.Grammar

open Scriptlet.Parser

variable {α : Type} {state next : State}

def Makes (parser : Parser α) (phrase : α → Phrase) : Prop :=
  ∀ state result next, parser.Yields state result next →
    Reading (phrase result) state.cursor.ahead next.cursor.ahead

theorem ahead_of_head {token : Token} {tokens : List Token} (head : tokens.head? = some token) :
    tokens = token :: tokens.tail := by
  cases tokens with
  | nil => cases head
  | cons first rest =>
      cases head
      rfl

theorem leads_of_kind {token : Token} {kind : Token.Kind} {tokens : List Token}
    (head : tokens.head? = some token) : leads kind none tokens = (token.kind == kind) := by
  simp [leads, head, Token.fits]

theorem climb_makes {operand : Nat → Parser Node} (floor : Nat)
    (operandMakes : ∀ floor, Makes (operand floor) (.expression floor)) (rounds : List Token)
    (left node : Node) (enough : state.cursor.ahead.length ≤ rounds.length)
    (run : (climb operand floor rounds left).Yields state node next) :
    Reading (.climb floor left node) state.cursor.ahead next.cursor.ahead := by
  induction rounds generalizing state left with
  | nil =>
      obtain ⟨rfl, rfl⟩ := yields_pure.mp run
      have empty := List.eq_nil_of_length_eq_zero (Nat.le_zero.mp enough)
      refine .settle ?_
      intro token op precedence head
      simp [empty] at head
  | cons _ rounds ih =>
      rw [climb] at run
      obtain ⟨found, _, peeked, rest⟩ := yields_bind.mp run
      obtain ⟨head, rfl⟩ := peek_yields peeked
      cases found with
      | none =>
          obtain ⟨rfl, rfl⟩ := yields_pure.mp rest
          refine .settle ?_
          intro token op precedence found
          simp [head] at found
      | some token =>
          dsimp only at rest
          have ahead := ahead_of_head head
          cases operator : binaryOperator? token with
          | none =>
              rw [operator] at rest
              obtain ⟨rfl, rfl⟩ := yields_pure.mp rest
              refine .settle ?_
              intro other op precedence found isOperator
              rw [head] at found
              cases found
              rw [operator] at isOperator
              cases isOperator
          | some pair =>
              obtain ⟨op, precedence⟩ := pair
              simp only [operator] at rest
              by_cases below : precedence < floor
              · rw [if_pos below] at rest
                obtain ⟨rfl, rfl⟩ := yields_pure.mp rest
                refine .settle ?_
                intro other _ _ found isOperator
                rw [head] at found
                cases found
                rw [operator] at isOperator
                cases isOperator
                exact below
              · rw [if_neg below] at rest
                obtain ⟨_, advanced, moved, rest⟩ := yields_bind.mp rest
                have tail := advance_yields moved
                obtain ⟨right, reached, operandRun, rest⟩ := yields_bind.mp rest
                have reading := operandMakes precedence _ _ _ operandRun
                have shorter := reading.length_le
                rw [tail] at reading shorter
                rw [ahead] at enough ⊢
                simp only [List.length_cons, Phrase.least] at enough shorter
                have last := ih _ (by omega) rest
                exact .fold operator (Nat.not_lt.mp below) reading last

/-- Items are read one after the other; `listed` is closed under the steps of the loop. -/
theorem itemsUntil_makes {close : Token.Kind} {item : Parser Node}
    (listed : List Node → List Token → List Token → Prop)
    (stop : ∀ tokens, tokens = [] ∨ leads close none tokens = true → listed [] tokens tokens)
    (step : ∀ state node next, leads close none state.cursor.ahead = false →
      item.Yields state node next → next.cursor.ahead.length < state.cursor.ahead.length ∧
        ∀ nodes after, listed nodes next.cursor.ahead after →
          listed (node :: nodes) state.cursor.ahead after)
    (rounds : List Token) (nodes : List Node)
    (enough : state.cursor.ahead.length ≤ rounds.length)
    (run : (itemsUntil close item rounds).Yields state nodes next) :
    listed nodes state.cursor.ahead next.cursor.ahead := by
  induction rounds generalizing state nodes with
  | nil =>
      obtain ⟨rfl, rfl⟩ := yields_pure.mp run
      exact stop _ (.inl (List.eq_nil_of_length_eq_zero (Nat.le_zero.mp enough)))
  | cons _ rounds ih =>
      rw [itemsUntil] at run
      obtain ⟨found, _, peeked, rest⟩ := yields_bind.mp run
      obtain ⟨head, rfl⟩ := peek_yields peeked
      cases found with
      | none =>
          obtain ⟨rfl, rfl⟩ := yields_pure.mp rest
          exact stop _ (.inl (List.head?_eq_none_iff.mp head))
      | some token =>
          dsimp only at rest
          by_cases closed : (token.kind == close) = true
          · rw [if_pos closed] at rest
            obtain ⟨rfl, rfl⟩ := yields_pure.mp rest
            exact stop _ (.inr ((leads_of_kind head).trans closed))
          · rw [if_neg closed] at rest
            obtain ⟨first, reached, itemRun, rest⟩ := yields_bind.mp rest
            obtain ⟨others, last, othersRun, finished⟩ := yields_bind.mp rest
            obtain ⟨rfl, rfl⟩ := yields_pure.mp finished
            have another : leads close none state.cursor.ahead = false :=
              (leads_of_kind head).trans (Bool.eq_false_iff.mpr closed)
            obtain ⟨shorter, extend⟩ := step _ _ _ another itemRun
            simp only [List.length_cons] at enough
            exact extend _ _ (ih _ (by omega) othersRun)

theorem items_makes {item : Parser Node} (itemMakes : Makes item (.expression 0))
    {close : Token.Kind} {rounds : List Token} {nodes : List Node}
    (enough : state.cursor.ahead.length ≤ rounds.length)
    (run : (itemsUntil close (commaItem item) rounds).Yields state nodes next) :
    Reading (.items close nodes) state.cursor.ahead next.cursor.ahead := by
  refine itemsUntil_makes (fun nodes => Reading (.items close nodes))
    (fun _ stopped => .noItem stopped) ?_ rounds nodes enough run
  intro state node next another itemRun
  unfold commaItem at itemRun
  obtain ⟨first, reached, firstRun, rest⟩ := yields_bind.mp itemRun
  obtain ⟨_, last, accepted, finished⟩ := yields_bind.mp rest
  obtain ⟨rfl, rfl⟩ := yields_pure.mp finished
  have skipped := (accept_yields accepted).2
  have reading := itemMakes _ _ _ firstRun
  have shorter := reading.length_le
  have skippedShorter := length_skip_le .comma none reached.cursor.ahead
  simp only [Phrase.least] at shorter
  rw [skipped]
  exact ⟨by omega, fun _ _ others => .item another reading others⟩

theorem bracketed_makes {item : Parser Node} (itemMakes : Makes item (.expression 0))
    {opening close : Token.Kind} {line : Nat} {nodes : List Node}
    (run : (bracketed opening close item).Yields state (line, nodes) next) :
    Reading (.bracketed opening close nodes) state.cursor.ahead next.cursor.ahead ∧
      ∃ first, state.cursor.ahead.head? = some first ∧ line = first.line := by
  unfold bracketed at run
  obtain ⟨first, opened, expected, rest⟩ := yields_bind.mp run
  obtain ⟨ahead, openingKind⟩ := expect_yields expected
  obtain ⟨tokens, _, remained, rest⟩ := yields_bind.mp rest
  obtain ⟨rfl, rfl⟩ := remaining_yields remained
  obtain ⟨items, reached, itemsRun, rest⟩ := yields_bind.mp rest
  obtain ⟨closing, closed, expectedClose, finished⟩ := yields_bind.mp rest
  obtain ⟨same, rfl⟩ := yields_pure.mp finished
  cases same
  obtain ⟨reachedAhead, closingKind⟩ := expect_yields expectedClose
  have reading := items_makes itemMakes (Nat.le_refl _) itemsRun
  rw [reachedAhead] at reading
  rw [ahead]
  exact ⟨.bracketed openingKind reading closingKind, first, rfl, rfl⟩

theorem condition_makes {item : Parser Node} (itemMakes : Makes item (.expression 0)) :
    Makes (condition item) .condition := by
  intro state node next run
  unfold condition at run
  obtain ⟨opening, opened, expected, rest⟩ := yields_bind.mp run
  obtain ⟨ahead, openingKind⟩ := expect_yields expected
  obtain ⟨inner, reached, itemRun, rest⟩ := yields_bind.mp rest
  obtain ⟨closing, closed, expectedClose, finished⟩ := yields_bind.mp rest
  obtain ⟨rfl, rfl⟩ := yields_pure.mp finished
  obtain ⟨reachedAhead, closingKind⟩ := expect_yields expectedClose
  have reading := itemMakes _ _ _ itemRun
  rw [reachedAhead] at reading
  rw [ahead]
  exact .condition openingKind reading closingKind

theorem arrayLiteral_makes {item : Parser Node} (itemMakes : Makes item (.expression 0)) :
    Makes (arrayLiteral item) .primary := by
  intro state node next run
  unfold arrayLiteral at run
  obtain ⟨⟨line, elements⟩, reached, bracketedRun, finished⟩ := yields_bind.mp run
  obtain ⟨rfl, rfl⟩ := yields_pure.mp finished
  obtain ⟨reading, first, head, rfl⟩ := bracketed_makes itemMakes bracketedRun
  rw [ahead_of_head head] at reading ⊢
  exact .array reading

theorem functionCall_makes {item : Parser Node} (itemMakes : Makes item (.expression 0)) :
    Makes (functionCall item) .primary := by
  intro state node next run
  unfold functionCall at run
  obtain ⟨⟨name, line⟩, named, nameRun, rest⟩ := yields_bind.mp run
  obtain ⟨token, ahead, kind, payload, rfl⟩ := expectName_yields nameRun
  obtain ⟨⟨_, arguments⟩, reached, bracketedRun, finished⟩ := yields_bind.mp rest
  obtain ⟨rfl, rfl⟩ := yields_pure.mp finished
  rw [ahead]
  exact .call ⟨kind, payload⟩ (bracketed_makes itemMakes bracketedRun).1

/-- A member is called through a double colon wherever the rule is entered with one ahead. -/
theorem moduleAccess_makes {item : Parser Node} (itemMakes : Makes item (.expression 0))
    {node : Node} (colons : state.cursor.ahead[1]?.map Token.kind = some .doubleColon)
    (run : (moduleAccess item).Yields state node next) :
    Reading (.primary node) state.cursor.ahead next.cursor.ahead := by
  unfold moduleAccess at run
  obtain ⟨⟨moduleName, line⟩, named, nameRun, rest⟩ := yields_bind.mp run
  obtain ⟨token, ahead, kind, payload, rfl⟩ := expectName_yields nameRun
  obtain ⟨_, skipped, acceptRun, rest⟩ := yields_bind.mp rest
  obtain ⟨⟨name, callLine⟩, calleeNamed, calleeRun, rest⟩ := yields_bind.mp rest
  obtain ⟨callee, calleeAhead, calleeKind, calleePayload, rfl⟩ := expectName_yields calleeRun
  obtain ⟨⟨_, arguments⟩, reached, bracketedRun, finished⟩ := yields_bind.mp rest
  obtain ⟨rfl, rfl⟩ := yields_pure.mp finished
  rw [ahead] at colons ⊢
  cases following : named.cursor.ahead with
  | nil => simp [following] at colons
  | cons sign rest =>
      have signKind : sign.kind = .doubleColon := by simpa [following] using colons
      have skippedAhead := (accept_yields acceptRun).2
      rw [following] at skippedAhead
      have dropped : skip .doubleColon none (sign :: rest) = rest := by
        simp [skip, leads, Token.fits, signKind]
      rw [dropped, calleeAhead] at skippedAhead
      rw [← skippedAhead]
      exact .member ⟨kind, payload⟩ signKind ⟨calleeKind, calleePayload⟩
        (bracketed_makes itemMakes bracketedRun).1

theorem unary_makes {token : Token} {text : String} {depth : Nat} {node : Node}
    (head : state.cursor.ahead.head? = some token) (kind : token.kind = .operator)
    (payload : token.payload = some (.text text))
    (operandMakes : Makes (expression depth Operator.unaryPrecedence)
      (.expression Operator.unaryPrecedence))
    (run : Yields (if (Operator.ofText text).isUnary then do
        advance
        let operand ← expression depth Operator.unaryPrecedence
        return .unary token.line (Operator.ofText text) operand
      else fail (.unexpectedInExpression token)) state node next) :
    Reading (.primary node) state.cursor.ahead next.cursor.ahead := by
  split at run
  next isUnary =>
    obtain ⟨_, advanced, moved, rest⟩ := yields_bind.mp run
    have tail := advance_yields moved
    obtain ⟨operand, reached, operandRun, finished⟩ := yields_bind.mp rest
    obtain ⟨rfl, rfl⟩ := yields_pure.mp finished
    have reading := operandMakes _ _ _ operandRun
    rw [tail] at reading
    rw [ahead_of_head head]
    exact .unary kind payload isUnary reading
  next => exact absurd run not_yields_fail

theorem leaf_yields {token : Token} {leaf node : Node}
    (head : state.cursor.ahead.head? = some token)
    (run : Yields (do advance; return leaf) state node next) :
    leaf = node ∧ state.cursor.ahead = token :: next.cursor.ahead := by
  obtain ⟨_, advanced, moved, finished⟩ := yields_bind.mp run
  obtain ⟨same, rfl⟩ := yields_pure.mp finished
  exact ⟨same, (ahead_of_head head).trans (congrArg (token :: ·) (advance_yields moved).symm)⟩

theorem primary_makes {depth : Nat}
    (expressionMakes : ∀ floor, Makes (expression depth floor) (.expression floor)) :
    Makes (primary (depth + 1)) .primary := by
  intro state node next run
  rw [primary] at run
  obtain ⟨found, _, peeked, rest⟩ := yields_bind.mp run
  obtain ⟨head, rfl⟩ := peek_yields peeked
  cases found with
  | none => exact absurd rest not_yields_fail
  | some token =>
      dsimp only at rest
      split at rest
      next text kind payload =>
        exact unary_makes head kind payload (expressionMakes _) rest
      next kind => exact arrayLiteral_makes (expressionMakes 0) _ _ _ rest
      next value kind payload =>
        obtain ⟨rfl, ahead⟩ := leaf_yields head rest
        rw [ahead]
        exact .int kind payload
      next value kind payload =>
        obtain ⟨rfl, ahead⟩ := leaf_yields head rest
        rw [ahead]
        exact .float kind payload
      next text kind payload =>
        obtain ⟨rfl, ahead⟩ := leaf_yields head rest
        rw [ahead]
        exact .string kind payload
      next name kind payload =>
        obtain ⟨following, _, looked, rest⟩ := yields_bind.mp rest
        obtain ⟨second, rfl⟩ := nextKind_yields looked
        split at rest
        next => exact functionCall_makes (expressionMakes 0) _ _ _ rest
        next => exact moduleAccess_makes (expressionMakes 0) second rest
        next notParen notColons =>
          obtain ⟨rfl, ahead⟩ := leaf_yields head rest
          rw [ahead] at second ⊢
          refine .reference ⟨kind, payload⟩ ?_
          intro other found
          have kindOf : following = some other.kind := by
            rw [← second, ahead_of_head found]
            rfl
          exact ⟨fun same => notParen (kindOf.trans (congrArg some same)),
            fun same => notColons (kindOf.trans (congrArg some same))⟩
      next kind =>
        obtain ⟨_, advanced, moved, rest⟩ := yields_bind.mp rest
        have tail := advance_yields moved
        obtain ⟨inner, reached, innerRun, rest⟩ := yields_bind.mp rest
        obtain ⟨closing, closed, expected, finished⟩ := yields_bind.mp rest
        obtain ⟨rfl, rfl⟩ := yields_pure.mp finished
        obtain ⟨reachedAhead, closingKind⟩ := expect_yields expected
        have reading := expressionMakes 0 _ _ _ innerRun
        rw [tail, reachedAhead] at reading
        rw [ahead_of_head head]
        exact .group kind reading closingKind
      next => exact absurd rest not_yields_fail

theorem expression_succ_makes {depth : Nat} (primaryMakes : Makes (primary depth) .primary)
    (operandMakes : ∀ floor, Makes (expression depth floor) (.expression floor)) (floor : Nat) :
    Makes (expression (depth + 1) floor) (.expression floor) := by
  intro state node next run
  rw [expression] at run
  obtain ⟨left, reached, leftRun, rest⟩ := yields_bind.mp run
  obtain ⟨tokens, _, remained, climbRun⟩ := yields_bind.mp rest
  obtain ⟨rfl, rfl⟩ := remaining_yields remained
  exact .expression (primaryMakes _ _ _ leftRun)
    (climb_makes floor operandMakes _ left node (Nat.le_refl _) climbRun)

theorem primary_expression_makes (depth : Nat) :
    Makes (primary depth) .primary ∧
      ∀ floor, Makes (expression depth floor) (.expression floor) := by
  induction depth with
  | zero =>
      refine ⟨?_, fun floor => ?_⟩
      · intro state node next run
        rw [primary] at run
        exact absurd run not_yields_tooDeep
      · intro state node next run
        rw [expression] at run
        exact absurd run not_yields_tooDeep
  | succ depth ih =>
      exact ⟨primary_makes ih.2, expression_succ_makes ih.1 ih.2⟩

theorem expression_makes (depth floor : Nat) :
    Makes (expression depth floor) (.expression floor) :=
  (primary_expression_makes depth).2 floor

def State.line (state : State) : Nat :=
  (state.cursor.ahead.head?.map Token.line).getD state.cursor.lastLine

theorem line_of_head {token : Token} (head : state.cursor.ahead.head? = some token) :
    state.line = token.line := by
  simp [State.line, head]

theorem currentLine_yields {line : Nat} (run : currentLine.Yields state line next) :
    state = next ∧ line = state.line := by
  unfold currentLine at run
  obtain ⟨found, _, peeked, rest⟩ := yields_bind.mp run
  obtain ⟨head, rfl⟩ := peek_yields peeked
  cases found with
  | none =>
      cases rest
      exact ⟨rfl, by simp [State.line, head]⟩
  | some token =>
      obtain ⟨rfl, rfl⟩ := yields_pure.mp rest
      exact ⟨rfl, (line_of_head head).symm⟩

theorem accept_keyword_yields {token : Token} {word : String} {rest : List Token}
    {accepted : Bool} (keyword : token.IsKeyword word) (ahead : state.cursor.ahead = token :: rest)
    (run : (accept .keyword (some word)).Yields state accepted next) :
    next.cursor.ahead = rest := by
  rw [(accept_yields run).2, ahead, skip_keyword keyword]

theorem parameters_makes (rounds : List Token) : Makes (parameters rounds) .parameters := by
  induction rounds with
  | nil =>
      intro state names next run
      rw [parameters] at run
      exact absurd run not_yields_fail
  | cons _ rounds ih =>
      intro state names next run
      rw [parameters] at run
      obtain ⟨found, _, peeked, rest⟩ := yields_bind.mp run
      obtain ⟨head, rfl⟩ := peek_yields peeked
      cases found with
      | none => exact absurd rest not_yields_fail
      | some token =>
          dsimp only at rest
          split at rest
          next closed =>
            obtain ⟨rfl, rfl⟩ := yields_pure.mp rest
            rw [ahead_of_head head]
            exact .noParameter (beq_iff_eq.mp closed)
          next =>
            split at rest
            next => exact absurd rest not_yields_fail
            next name identifier =>
              obtain ⟨_, advanced, moved, rest⟩ := yields_bind.mp rest
              obtain ⟨_, skipped, accepted, rest⟩ := yields_bind.mp rest
              obtain ⟨others, reached, othersRun, finished⟩ := yields_bind.mp rest
              obtain ⟨rfl, rfl⟩ := yields_pure.mp finished
              have reading := ih _ _ _ othersRun
              rw [(accept_yields accepted).2, advance_yields moved] at reading
              rw [ahead_of_head head]
              exact .parameter (Token.identifier_eq_some.mp identifier) reading

section Statements

variable {token : Token} {item body : Parser Node} {node : Node}

theorem whileLoop_makes (itemMakes : Makes item (.expression 0)) (bodyMakes : Makes body .block)
    (keyword : token.IsKeyword "while") (head : state.cursor.ahead.head? = some token)
    (run : (whileLoop item body).Yields state node next) :
    Reading (.statement node) state.cursor.ahead next.cursor.ahead := by
  unfold whileLoop at run
  obtain ⟨line, _, lineRun, rest⟩ := yields_bind.mp run
  obtain ⟨rfl, isHere⟩ := currentLine_yields lineRun
  obtain rfl := isHere.trans (line_of_head head)
  obtain ⟨_, entered, accepted, rest⟩ := yields_bind.mp rest
  have ahead := accept_keyword_yields keyword (ahead_of_head head) accepted
  obtain ⟨test, tested, testRun, rest⟩ := yields_bind.mp rest
  obtain ⟨inner, reached, bodyRun, finished⟩ := yields_bind.mp rest
  obtain ⟨rfl, rfl⟩ := yields_pure.mp finished
  have reading := condition_makes itemMakes _ _ _ testRun
  rw [ahead] at reading
  rw [ahead_of_head head]
  exact .whileStatement keyword reading (bodyMakes _ _ _ bodyRun)

theorem forLoop_makes (itemMakes : Makes item (.expression 0)) (bodyMakes : Makes body .block)
    (keyword : token.IsKeyword "for") (head : state.cursor.ahead.head? = some token)
    (run : (forLoop item body).Yields state node next) :
    Reading (.statement node) state.cursor.ahead next.cursor.ahead := by
  unfold forLoop at run
  obtain ⟨line, _, lineRun, rest⟩ := yields_bind.mp run
  obtain ⟨rfl, isHere⟩ := currentLine_yields lineRun
  obtain rfl := isHere.trans (line_of_head head)
  obtain ⟨_, entered, accepted, rest⟩ := yields_bind.mp rest
  have enteredAhead := accept_keyword_yields keyword (ahead_of_head head) accepted
  obtain ⟨opening, opened, expectedOpen, rest⟩ := yields_bind.mp rest
  obtain ⟨openedAhead, openingKind⟩ := expect_yields expectedOpen
  obtain ⟨taken, named, takeRun, rest⟩ := yields_bind.mp rest
  obtain ⟨takenHead, namedAhead⟩ := take_yields takeRun
  cases taken with
  | none => exact absurd rest not_yields_fail
  | some element =>
      dsimp only at rest
      split at rest
      next => exact absurd rest not_yields_fail
      next name identifier =>
        obtain ⟨closing, closed, expectedClose, rest⟩ := yields_bind.mp rest
        obtain ⟨closedAhead, closingKind⟩ := expect_yields expectedClose
        obtain ⟨array, reached, arrayRun, rest⟩ := yields_bind.mp rest
        obtain ⟨inner, last, bodyRun, finished⟩ := yields_bind.mp rest
        obtain ⟨rfl, rfl⟩ := yields_pure.mp finished
        rw [ahead_of_head head, ← enteredAhead, openedAhead, ahead_of_head takenHead, ← namedAhead,
          closedAhead]
        exact .forStatement keyword openingKind (Token.identifier_eq_some.mp identifier)
          closingKind (condition_makes itemMakes _ _ _ arrayRun) (bodyMakes _ _ _ bodyRun)

theorem functionDefinition_makes (bodyMakes : Makes body .block)
    (keyword : token.IsKeyword "fun") (head : state.cursor.ahead.head? = some token)
    (run : (functionDefinition body).Yields state node next) :
    Reading (.statement node) state.cursor.ahead next.cursor.ahead := by
  unfold functionDefinition at run
  obtain ⟨_, entered, accepted, rest⟩ := yields_bind.mp run
  have enteredAhead := accept_keyword_yields keyword (ahead_of_head head) accepted
  obtain ⟨⟨name, line⟩, named, nameRun, rest⟩ := yields_bind.mp rest
  obtain ⟨callee, namedAhead, kind, payload, rfl⟩ := expectName_yields nameRun
  obtain ⟨opening, opened, expectedOpen, rest⟩ := yields_bind.mp rest
  obtain ⟨openedAhead, openingKind⟩ := expect_yields expectedOpen
  obtain ⟨tokens, _, remained, rest⟩ := yields_bind.mp rest
  obtain ⟨rfl, rfl⟩ := remaining_yields remained
  obtain ⟨names, reached, namesRun, rest⟩ := yields_bind.mp rest
  obtain ⟨closing, closed, expectedClose, rest⟩ := yields_bind.mp rest
  obtain ⟨closedAhead, closingKind⟩ := expect_yields expectedClose
  obtain ⟨inner, last, bodyRun, finished⟩ := yields_bind.mp rest
  obtain ⟨rfl, rfl⟩ := yields_pure.mp finished
  have reading := parameters_makes _ _ _ _ namesRun
  rw [closedAhead] at reading
  rw [ahead_of_head head, ← enteredAhead, namedAhead, openedAhead]
  exact .functionStatement keyword ⟨kind, payload⟩ openingKind reading closingKind
    (bodyMakes _ _ _ bodyRun)

theorem returnStatement_makes (itemMakes : Makes item (.expression 0))
    (keyword : token.IsKeyword "return") (head : state.cursor.ahead.head? = some token)
    (run : (returnStatement item).Yields state node next) :
    Reading (.statement node) state.cursor.ahead next.cursor.ahead := by
  unfold returnStatement at run
  obtain ⟨line, _, lineRun, rest⟩ := yields_bind.mp run
  obtain ⟨rfl, isHere⟩ := currentLine_yields lineRun
  obtain rfl := isHere.trans (line_of_head head)
  obtain ⟨_, entered, accepted, rest⟩ := yields_bind.mp rest
  have enteredAhead := accept_keyword_yields keyword (ahead_of_head head) accepted
  obtain ⟨found, _, peeked, rest⟩ := yields_bind.mp rest
  obtain ⟨second, rfl⟩ := peek_yields peeked
  rw [ahead_of_head head, ← enteredAhead]
  cases found with
  | none => exact absurd rest not_yields_fail
  | some following =>
      dsimp only at rest
      split at rest
      next =>
        obtain ⟨semicolon, reached, expected, finished⟩ := yields_bind.mp rest
        obtain ⟨rfl, rfl⟩ := yields_pure.mp finished
        obtain ⟨reachedAhead, kind⟩ := expect_yields expected
        rw [reachedAhead]
        exact .returnNothing keyword kind
      next other =>
        obtain ⟨value, valued, valueRun, rest⟩ := yields_bind.mp rest
        obtain ⟨semicolon, reached, expected, finished⟩ := yields_bind.mp rest
        obtain ⟨rfl, rfl⟩ := yields_pure.mp finished
        obtain ⟨reachedAhead, kind⟩ := expect_yields expected
        have reading := itemMakes _ _ _ valueRun
        rw [reachedAhead] at reading
        exact .returnValue keyword
          ((leads_of_kind second).trans (Bool.eq_false_iff.mpr other)) reading kind

theorem importStatement_makes (keyword : token.IsKeyword "import")
    (head : state.cursor.ahead.head? = some token)
    (run : importStatement.Yields state node next) :
    Reading (.statement node) state.cursor.ahead next.cursor.ahead := by
  unfold importStatement at run
  obtain ⟨_, entered, accepted, rest⟩ := yields_bind.mp run
  have enteredAhead := accept_keyword_yields keyword (ahead_of_head head) accepted
  obtain ⟨taken, named, takeRun, rest⟩ := yields_bind.mp rest
  obtain ⟨takenHead, namedAhead⟩ := take_yields takeRun
  cases taken with
  | none => exact absurd rest not_yields_fail
  | some moduleToken =>
      dsimp only at rest
      split at rest
      next => exact absurd rest not_yields_fail
      next moduleName identifier =>
        obtain ⟨semicolon, reached, expected, finished⟩ := yields_bind.mp rest
        obtain ⟨rfl, rfl⟩ := yields_pure.mp finished
        obtain ⟨reachedAhead, kind⟩ := expect_yields expected
        rw [ahead_of_head head, ← enteredAhead, ahead_of_head takenHead, ← namedAhead,
          reachedAhead]
        exact .importStatement keyword (Token.identifier_eq_some.mp identifier) kind

theorem assignment_makes (itemMakes : Makes item (.expression 0)) :
    Makes (assignment item) .statement := by
  intro state node next run
  unfold assignment at run
  obtain ⟨⟨name, line⟩, named, nameRun, rest⟩ := yields_bind.mp run
  obtain ⟨target, namedAhead, kind, payload, rfl⟩ := expectName_yields nameRun
  obtain ⟨taken, signed, takeRun, rest⟩ := yields_bind.mp rest
  obtain ⟨takenHead, signedAhead⟩ := take_yields takeRun
  cases taken with
  | none => exact absurd rest not_yields_fail
  | some sign =>
      dsimp only at rest
      split at rest
      next => exact absurd rest not_yields_fail
      next form found =>
        obtain ⟨value, valued, valueRun, rest⟩ := yields_bind.mp rest
        obtain ⟨semicolon, reached, expected, finished⟩ := yields_bind.mp rest
        obtain ⟨rfl, rfl⟩ := yields_pure.mp finished
        obtain ⟨reachedAhead, semicolonKind⟩ := expect_yields expected
        have reading := itemMakes _ _ _ valueRun
        rw [reachedAhead] at reading
        rw [namedAhead, ahead_of_head takenHead, ← signedAhead]
        exact .assignment ⟨kind, payload⟩ found reading semicolonKind

theorem plainStatement_makes (itemMakes : Makes item (.expression 0))
    (head : state.cursor.ahead.head? = some token)
    (run : (plainStatement item token).Yields state node next) :
    Reading (.statement node) state.cursor.ahead next.cursor.ahead := by
  unfold plainStatement at run
  obtain ⟨following, _, looked, rest⟩ := yields_bind.mp run
  obtain ⟨second, rfl⟩ := nextKind_yields looked
  split at rest
  next => exact assignment_makes itemMakes _ _ _ rest
  next noAssignment =>
    split at rest
    next starts =>
      unfold expressionStatement at rest
      obtain ⟨value, valued, valueRun, rest⟩ := yields_bind.mp rest
      obtain ⟨semicolon, reached, expected, finished⟩ := yields_bind.mp rest
      obtain ⟨rfl, rfl⟩ := yields_pure.mp finished
      obtain ⟨reachedAhead, kind⟩ := expect_yields expected
      have reading := itemMakes _ _ _ valueRun
      rw [reachedAhead] at reading
      rw [ahead_of_head head] at reading second ⊢
      refine .expressionStatement starts ?_ reading kind
      intro identifier
      rw [← second] at noAssignment
      cases tail : state.cursor.ahead.tail with
      | nil => rfl
      | cons after rest => simpa [identifier, tail] using noAssignment
    next => exact absurd rest not_yields_fail

end Statements

def SequenceMakes (parser : Parser Node) : Prop :=
  ∀ state node next, parser.Yields state node next →
    ∃ nodes, node = .sequence state.line nodes ∧
      Reading (.statements nodes) state.cursor.ahead next.cursor.ahead

theorem sequence_succ_makes {depth : Nat} (statementMakes : Makes (statement depth) .statement) :
    SequenceMakes (sequence (depth + 1)) := by
  intro state node next run
  rw [sequence] at run
  obtain ⟨line, _, lineRun, rest⟩ := yields_bind.mp run
  obtain ⟨rfl, rfl⟩ := currentLine_yields lineRun
  obtain ⟨tokens, _, remained, rest⟩ := yields_bind.mp rest
  obtain ⟨rfl, rfl⟩ := remaining_yields remained
  obtain ⟨nodes, reached, nodesRun, finished⟩ := yields_bind.mp rest
  obtain ⟨rfl, rfl⟩ := yields_pure.mp finished
  refine ⟨nodes, rfl, ?_⟩
  refine itemsUntil_makes (fun nodes => Reading (.statements nodes))
    (fun _ stopped => .noStatement stopped) ?_ _ nodes (Nat.le_refl _) nodesRun
  intro state node next another statementRun
  have reading := statementMakes _ _ _ statementRun
  exact ⟨reading.length_le, fun _ _ others => .statements another reading others⟩

theorem block_succ_makes {depth : Nat} (sequenceMakes : SequenceMakes (sequence depth)) :
    Makes (block (depth + 1)) .block := by
  intro state node next run
  rw [block] at run
  obtain ⟨opening, opened, expectedOpen, rest⟩ := yields_bind.mp run
  obtain ⟨openedAhead, openingKind⟩ := expect_yields expectedOpen
  obtain ⟨body, reached, bodyRun, rest⟩ := yields_bind.mp rest
  obtain ⟨closing, closed, expectedClose, finished⟩ := yields_bind.mp rest
  obtain ⟨rfl, rfl⟩ := yields_pure.mp finished
  obtain ⟨reachedAhead, closingKind⟩ := expect_yields expectedClose
  obtain ⟨nodes, rfl, reading⟩ := sequenceMakes _ _ _ bodyRun
  rw [openedAhead]
  rw [reachedAhead] at reading
  cases inner : opened.cursor.ahead with
  | nil =>
      rw [inner] at reading
      simpa using reading.length_le
  | cons first rest =>
      have here : opened.line = first.line := line_of_head (by rw [inner]; rfl)
      rw [inner] at reading
      rw [here]
      exact .block openingKind reading closingKind

theorem isKeyword_of_leads {word : String} {tokens : List Token}
    (found : leads .keyword (some word) tokens = true) :
    ∃ token, tokens = token :: skip .keyword (some word) tokens ∧ token.IsKeyword word := by
  cases tokens with
  | nil => cases found
  | cons token rest =>
      have keyword : token.IsKeyword word := Token.fits_keyword.mp found
      exact ⟨token, by rw [skip_keyword keyword], keyword⟩

theorem branching_makes {depth line : Nat} {test thenBlock node : Node}
    (conditionalMakes : Makes (conditional depth) .conditional)
    (blockMakes : Makes (block depth) .block)
    (run : (branching depth line test thenBlock).Yields state node next) :
    ∃ elseNode, node = .conditional line test thenBlock elseNode ∧
      Reading (.branches elseNode) state.cursor.ahead next.cursor.ahead := by
  unfold branching at run
  obtain ⟨isElif, afterElif, acceptedElif, rest⟩ := yields_bind.mp run
  obtain ⟨elifLeads, elifAhead⟩ := accept_yields acceptedElif
  split at rest
  next found =>
    obtain ⟨elseNode, reached, elseRun, finished⟩ := yields_bind.mp rest
    obtain ⟨rfl, rfl⟩ := yields_pure.mp finished
    obtain ⟨token, ahead, keyword⟩ := isKeyword_of_leads (elifLeads.symm.trans found)
    rw [ahead, ← elifAhead]
    exact ⟨some elseNode, rfl, .elifBranch keyword (conditionalMakes _ _ _ elseRun)⟩
  next noElif =>
    have noElif := elifLeads.symm.trans (Bool.eq_false_iff.mpr noElif)
    simp only [skip, noElif, Bool.false_eq_true, if_false] at elifAhead
    rw [← elifAhead] at noElif ⊢
    obtain ⟨isElse, afterElse, acceptedElse, rest⟩ := yields_bind.mp rest
    obtain ⟨elseLeads, elseAhead⟩ := accept_yields acceptedElse
    split at rest
    next found =>
      obtain ⟨elseNode, reached, elseRun, finished⟩ := yields_bind.mp rest
      obtain ⟨rfl, rfl⟩ := yields_pure.mp finished
      obtain ⟨token, ahead, keyword⟩ := isKeyword_of_leads (elseLeads.symm.trans found)
      rw [ahead, ← elseAhead]
      exact ⟨some elseNode, rfl, .elseBranch keyword (blockMakes _ _ _ elseRun)⟩
    next noElse =>
      have noElse := elseLeads.symm.trans (Bool.eq_false_iff.mpr noElse)
      simp only [skip, noElse, Bool.false_eq_true, if_false] at elseAhead
      obtain ⟨rfl, rfl⟩ := yields_pure.mp rest
      rw [elseAhead]
      exact ⟨none, rfl, .noBranch noElif noElse⟩

theorem conditional_succ_makes {depth : Nat}
    (conditionalMakes : Makes (conditional depth) .conditional)
    (blockMakes : Makes (block depth) .block) :
    Makes (conditional (depth + 1)) .conditional := by
  intro state node next run
  rw [conditional_succ] at run
  obtain ⟨line, _, lineRun, rest⟩ := yields_bind.mp run
  obtain ⟨rfl, rfl⟩ := currentLine_yields lineRun
  obtain ⟨_, entered, accepted, rest⟩ := yields_bind.mp rest
  have enteredAhead := (accept_yields accepted).2
  obtain ⟨test, tested, testRun, rest⟩ := yields_bind.mp rest
  obtain ⟨thenBlock, reached, blockRun, rest⟩ := yields_bind.mp rest
  obtain ⟨elseNode, rfl, branches⟩ := branching_makes conditionalMakes blockMakes rest
  have reading := condition_makes (expression_makes depth 0) _ _ _ testRun
  rw [enteredAhead] at reading
  cases ahead : state.cursor.ahead with
  | nil =>
      rw [ahead] at reading
      cases reading
  | cons first rest =>
      have here : state.line = first.line := line_of_head (by rw [ahead]; rfl)
      rw [ahead] at reading
      rw [here]
      exact .conditional reading (blockMakes _ _ _ blockRun) branches

theorem statement_succ_makes {depth : Nat}
    (conditionalMakes : Makes (conditional depth) .conditional)
    (blockMakes : Makes (block depth) .block) :
    Makes (statement (depth + 1)) .statement := by
  intro state node next run
  have itemMakes := expression_makes depth 0
  rw [statement] at run
  obtain ⟨found, _, peeked, rest⟩ := yields_bind.mp run
  obtain ⟨head, rfl⟩ := peek_yields peeked
  cases found with
  | none => exact absurd rest not_yields_fail
  | some token =>
      obtain ⟨_, noted, noteRun, rest⟩ := yields_bind.mp rest
      have notedAhead := noteStart_yields noteRun
      rw [← notedAhead] at head ⊢
      split at rest
      next kind =>
        have isKeyword {word : String} (text : token.text? = some word) : token.IsKeyword word :=
          ⟨kind, Token.text_eq_some.mp text⟩
        split at rest
        next text =>
          have reading := conditionalMakes _ _ _ rest
          rw [ahead_of_head head] at reading ⊢
          exact .ifStatement (isKeyword text) reading
        next text => exact whileLoop_makes itemMakes blockMakes (isKeyword text) head rest
        next text => exact forLoop_makes itemMakes blockMakes (isKeyword text) head rest
        next text => exact functionDefinition_makes blockMakes (isKeyword text) head rest
        next text => exact returnStatement_makes itemMakes (isKeyword text) head rest
        next text => exact importStatement_makes (isKeyword text) head rest
        next => exact absurd rest not_yields_fail
      next => exact plainStatement_makes itemMakes head rest

theorem statement_rules_make (depth : Nat) :
    SequenceMakes (sequence depth) ∧ Makes (block depth) .block ∧
      Makes (conditional depth) .conditional ∧ Makes (statement depth) .statement := by
  induction depth with
  | zero =>
      refine ⟨?_, ?_, ?_, ?_⟩ <;> intro state node next run
      · rw [sequence] at run
        exact absurd run not_yields_tooDeep
      · rw [block] at run
        exact absurd run not_yields_tooDeep
      · rw [conditional] at run
        exact absurd run not_yields_tooDeep
      · rw [statement] at run
        exact absurd run not_yields_tooDeep
  | succ depth ih =>
      obtain ⟨sequenceMakes, blockMakes, conditionalMakes, statementMakes⟩ := ih
      exact ⟨sequence_succ_makes statementMakes, block_succ_makes sequenceMakes,
        conditional_succ_makes conditionalMakes blockMakes,
        statement_succ_makes conditionalMakes blockMakes⟩

end Scriptlet.Grammar
