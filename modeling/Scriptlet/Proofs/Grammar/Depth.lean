import Scriptlet.Proofs.Grammar.Run

/-!
How deep a rule may nest decides only whether it halts for want of depth. With more depth it ends
in the same way, in the same state, unless it halted for want of depth before.
-/

namespace Scriptlet

namespace Parser

variable {α β : Type}

/-- Where the first rule does not halt for want of depth, the second ends as it does. -/
def Approximates (shallow deep : Parser α) : Prop :=
  ∀ state, (shallow.outcome state).1 = .error .tooDeep ∨
    shallow.outcome state = deep.outcome state

theorem Approximates.refl (parser : Parser α) : parser.Approximates parser :=
  fun _ => .inr rfl

theorem Approximates.trans {first second third : Parser α} (head : first.Approximates second)
    (tail : second.Approximates third) : first.Approximates third := by
  intro state
  rcases head state with halted | same
  · exact .inl halted
  · rw [same]
    exact tail state

theorem Approximates.of_le {rule : Nat → Parser α}
    (closer : ∀ depth, (rule depth).Approximates (rule (depth + 1))) {depth more : Nat}
    (enough : depth ≤ more) : (rule depth).Approximates (rule more) := by
  induction enough with
  | refl => exact .refl _
  | step _ ih => exact ih.trans (closer _)

theorem Approximates.yields {shallow deep : Parser α} (closer : shallow.Approximates deep)
    {state next : Grammar.State} {result : α} (run : shallow.Yields state result next) :
    deep.Yields state result next := by
  rcases closer state with halted | same
  · rw [run] at halted
    cases halted
  · exact same.symm.trans run

theorem Approximates.tooDeep (deep : Parser α) :
    Approximates (Grammar.tooDeep : Parser α) deep :=
  fun _ => .inl rfl

theorem Approximates.bind {shallow deep : Parser α} {next further : α → Parser β}
    (head : shallow.Approximates deep) (tail : ∀ result, (next result).Approximates (further result)) :
    Approximates (shallow >>= next) (deep >>= further) := by
  intro state
  rw [outcome_bind, outcome_bind]
  rcases head state with halted | same
  · rcases ended : shallow.outcome state with ⟨ending, reached⟩
    rw [ended] at halted
    cases halted
    exact .inl rfl
  · rw [same]
    rcases deep.outcome state with ⟨halt | result, reached⟩
    · exact .inr rfl
    · exact tail result reached

end Parser

namespace Grammar

open Scriptlet.Parser

section Arguments

variable {item deeper : Parser Node} (closer : item.Approximates deeper)

include closer

theorem itemsUntil_approximates (close : Token.Kind) (rounds : List Token) :
    (itemsUntil close item rounds).Approximates (itemsUntil close deeper rounds) := by
  induction rounds with
  | nil => exact .refl _
  | cons token rounds ih =>
      refine .bind (.refl _) fun found => ?_
      cases found with
      | none => exact .refl _
      | some token =>
          dsimp only
          split
          · exact .refl _
          · exact closer.bind fun first => ih.bind fun others => .refl _

theorem commaItem_approximates : (commaItem item).Approximates (commaItem deeper) :=
  closer.bind fun _ => .refl _

theorem bracketed_approximates (opening close : Token.Kind) :
    (bracketed opening close item).Approximates (bracketed opening close deeper) := by
  refine .bind (.refl _) fun first => .bind (.refl _) fun rounds => ?_
  exact (itemsUntil_approximates (commaItem_approximates closer) close rounds).bind
    fun items => .refl _

theorem arrayLiteral_approximates : (arrayLiteral item).Approximates (arrayLiteral deeper) :=
  (bracketed_approximates closer _ _).bind fun _ => .refl _

theorem functionCall_approximates : (functionCall item).Approximates (functionCall deeper) :=
  .bind (.refl _) fun _ => (bracketed_approximates closer _ _).bind fun _ => .refl _

theorem moduleAccess_approximates : (moduleAccess item).Approximates (moduleAccess deeper) :=
  .bind (.refl _) fun _ => .bind (.refl _) fun _ => .bind (.refl _) fun _ =>
    (bracketed_approximates closer _ _).bind fun _ => .refl _

theorem condition_approximates : (condition item).Approximates (condition deeper) :=
  .bind (.refl _) fun _ => closer.bind fun _ => .refl _

theorem returnStatement_approximates :
    (returnStatement item).Approximates (returnStatement deeper) := by
  refine .bind (.refl _) fun line => .bind (.refl _) fun _ => .bind (.refl _) fun found => ?_
  cases found with
  | none => exact .refl _
  | some token =>
      dsimp only
      split
      · exact .refl _
      · exact closer.bind fun value => .refl _

theorem assignment_approximates : (assignment item).Approximates (assignment deeper) := by
  refine .bind (.refl _) fun name => .bind (.refl _) fun found => ?_
  cases found with
  | none => exact .refl _
  | some token =>
      dsimp only
      split
      · exact .refl _
      · exact closer.bind fun value => .refl _

theorem expressionStatement_approximates :
    (expressionStatement item).Approximates (expressionStatement deeper) :=
  closer.bind fun _ => .refl _

theorem plainStatement_approximates (token : Token) :
    (plainStatement item token).Approximates (plainStatement deeper token) := by
  refine .bind (.refl _) fun next => ?_
  split
  · exact assignment_approximates closer
  · split
    · exact expressionStatement_approximates closer
    · exact .refl _

theorem functionDefinition_approximates :
    (functionDefinition item).Approximates (functionDefinition deeper) :=
  .bind (.refl _) fun _ => .bind (.refl _) fun _ => .bind (.refl _) fun _ =>
    .bind (.refl _) fun _ => .bind (.refl _) fun _ => .bind (.refl _) fun _ =>
      closer.bind fun _ => .refl _

variable {block deeperBlock : Parser Node} (closerBlock : block.Approximates deeperBlock)

include closerBlock

theorem whileLoop_approximates :
    (whileLoop item block).Approximates (whileLoop deeper deeperBlock) :=
  .bind (.refl _) fun _ => .bind (.refl _) fun _ =>
    (condition_approximates closer).bind fun _ => closerBlock.bind fun _ => .refl _

theorem forLoop_approximates :
    (forLoop item block).Approximates (forLoop deeper deeperBlock) := by
  refine .bind (.refl _) fun line => .bind (.refl _) fun _ => .bind (.refl _) fun _ =>
    .bind (.refl _) fun found => ?_
  cases found with
  | none => exact .refl _
  | some token =>
      dsimp only
      split
      · exact .refl _
      · exact .bind (.refl _) fun _ =>
          (condition_approximates closer).bind fun _ => closerBlock.bind fun _ => .refl _

end Arguments

theorem climb_approximates {operand deeper : Nat → Parser Node}
    (closer : ∀ floor, (operand floor).Approximates (deeper floor)) (floor : Nat)
    (rounds : List Token) (left : Node) :
    (climb operand floor rounds left).Approximates (climb deeper floor rounds left) := by
  induction rounds generalizing left with
  | nil => exact .refl _
  | cons token rounds ih =>
      refine .bind (.refl _) fun found => ?_
      cases found with
      | none => exact .refl _
      | some token =>
          dsimp only
          split
          · exact .refl _
          · split
            · exact .refl _
            · exact .bind (.refl _) fun _ => (closer _).bind fun right => ih _

theorem primary_approximates {depth : Nat}
    (closer : ∀ floor, (expression depth floor).Approximates (expression (depth + 1) floor)) :
    (primary (depth + 1)).Approximates (primary (depth + 2)) := by
  rw [primary, primary]
  refine .bind (.refl _) fun found => ?_
  cases found with
  | none => exact .refl _
  | some token =>
      dsimp only
      split
      · split
        · exact .bind (.refl _) fun _ => (closer _).bind fun _ => .refl _
        · exact .refl _
      · exact arrayLiteral_approximates (closer 0)
      · exact .refl _
      · exact .refl _
      · exact .refl _
      · refine .bind (.refl _) fun next => ?_
        split
        · exact functionCall_approximates (closer 0)
        · exact moduleAccess_approximates (closer 0)
        · exact .refl _
      · exact .bind (.refl _) fun _ => (closer 0).bind fun _ => .refl _
      · exact .refl _

theorem expression_rules_approximate (depth : Nat) :
    (primary depth).Approximates (primary (depth + 1)) ∧
    ∀ floor, (expression depth floor).Approximates (expression (depth + 1) floor) := by
  induction depth with
  | zero =>
      constructor
      · rw [primary]
        exact .tooDeep _
      · intro floor
        rw [expression]
        exact .tooDeep _
  | succ depth ih =>
      refine ⟨primary_approximates ih.2, fun floor => ?_⟩
      rw [expression, expression]
      exact ih.1.bind fun left => .bind (.refl _) fun rounds =>
        climb_approximates ih.2 floor rounds left

theorem expression_approximates (depth floor : Nat) :
    (expression depth floor).Approximates (expression (depth + 1) floor) :=
  (expression_rules_approximate depth).2 floor

theorem conditional_approximates {depth : Nat}
    (blockCloser : (block depth).Approximates (block (depth + 1)))
    (closer : (conditional depth).Approximates (conditional (depth + 1))) :
    (conditional (depth + 1)).Approximates (conditional (depth + 2)) := by
  rw [conditional, conditional]
  refine .bind (.refl _) fun line => .bind (.refl _) fun _ => ?_
  refine (condition_approximates (expression_approximates depth 0)).bind fun test => ?_
  refine blockCloser.bind fun thenBlock => .bind (.refl _) fun another => ?_
  cases another with
  | true => exact closer.bind fun elseNode => .refl _
  | false =>
      refine .bind (.refl _) fun last => ?_
      cases last with
      | true => exact blockCloser.bind fun elseNode => .refl _
      | false => exact .refl _

theorem statement_approximates {depth : Nat}
    (blockCloser : (block depth).Approximates (block (depth + 1)))
    (closer : (conditional depth).Approximates (conditional (depth + 1))) :
    (statement (depth + 1)).Approximates (statement (depth + 2)) := by
  have item := expression_approximates depth 0
  rw [statement, statement]
  refine .bind (.refl _) fun found => ?_
  cases found with
  | none => exact .refl _
  | some token =>
      refine .bind (.refl _) fun _ => ?_
      split
      · split
        · exact closer
        · exact whileLoop_approximates item blockCloser
        · exact forLoop_approximates item blockCloser
        · exact functionDefinition_approximates blockCloser
        · exact returnStatement_approximates item
        · exact .refl _
        · exact .refl _
      · exact plainStatement_approximates item token

theorem statement_rules_approximate (depth : Nat) :
    (sequence depth).Approximates (sequence (depth + 1)) ∧
    (block depth).Approximates (block (depth + 1)) ∧
    (conditional depth).Approximates (conditional (depth + 1)) ∧
    (statement depth).Approximates (statement (depth + 1)) := by
  induction depth with
  | zero =>
      rw [sequence, block, conditional, statement]
      exact ⟨.tooDeep _, .tooDeep _, .tooDeep _, .tooDeep _⟩
  | succ depth ih =>
      obtain ⟨sequenceCloser, blockCloser, conditionalCloser, statementCloser⟩ := ih
      refine ⟨?_, ?_, conditional_approximates blockCloser conditionalCloser,
        statement_approximates blockCloser conditionalCloser⟩
      · rw [sequence, sequence]
        exact .bind (.refl _) fun line => .bind (.refl _) fun rounds =>
          (itemsUntil_approximates statementCloser _ rounds).bind fun _ => .refl _
      · rw [block, block]
        exact .bind (.refl _) fun _ => sequenceCloser.bind fun _ => .refl _

theorem program_approximates {depth more : Nat} (enough : depth ≤ more) :
    (program depth).Approximates (program more) :=
  .of_le (fun depth => (statement_rules_approximate depth).1.bind fun _ => .refl _) enough

end Grammar

end Scriptlet
