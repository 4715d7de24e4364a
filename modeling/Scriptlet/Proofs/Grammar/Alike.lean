import Mathlib.Data.List.Forall2
import Scriptlet.Proofs.Grammar.Printing
import Scriptlet.Proofs.Grammar.Run

/-!
Lines serve diagnostics only. Two token lists that differ in nothing but lines are parsed alike: to
trees that differ in nothing but lines, or to faults of the same title and message.
-/

namespace Scriptlet

def Token.Alike (token other : Token) : Prop :=
  token.kind = other.kind ∧ token.payload = other.payload

theorem Token.Alike.exists_line {token other : Token} (alike : token.Alike other) :
    ∃ line, other = { token with line := line } := by
  obtain ⟨kind, payload, line⟩ := other
  obtain ⟨rfl, rfl⟩ := alike
  exact ⟨line, rfl⟩

def Node.Alike (node other : Node) : Prop :=
  node.unplaced = other.unplaced

def Cause.Alike (cause other : Cause) : Prop :=
  cause.title = other.title ∧ cause.message = other.message

theorem Cause.alike_refl (cause : Cause) : cause.Alike cause :=
  ⟨rfl, rfl⟩

theorem Node.unplacedAll_of_alike {nodes others : List Node}
    (alike : List.Forall₂ Node.Alike nodes others) : unplacedAll nodes = unplacedAll others := by
  induction alike with
  | nil => rfl
  | cons head _ ih => exact congrArg₂ List.cons head ih

namespace Node.Alike

variable {line otherLine : Nat} {name : String} {value twin left right leftTwin rightTwin : Node}
  {nodes others : List Node}

theorem sequence (alike : List.Forall₂ Node.Alike nodes others) :
    (Node.sequence line nodes).Alike (.sequence otherLine others) :=
  congrArg (Node.sequence 0) (unplacedAll_of_alike alike)

theorem array (alike : List.Forall₂ Node.Alike nodes others) :
    (Node.array line nodes).Alike (.array otherLine others) :=
  congrArg (Node.array 0) (unplacedAll_of_alike alike)

theorem call (alike : List.Forall₂ Node.Alike nodes others) :
    (Node.call line name nodes).Alike (.call otherLine name others) :=
  congrArg (Node.call 0 name) (unplacedAll_of_alike alike)

theorem member {callLine otherCallLine : Nat} {moduleName : String}
    (alike : List.Forall₂ Node.Alike nodes others) :
    (Node.member line moduleName callLine name nodes).Alike
      (.member otherLine moduleName otherCallLine name others) :=
  congrArg (Node.member 0 moduleName 0 name) (unplacedAll_of_alike alike)

theorem returns (alike : value.Alike twin) :
    (Node.returns line (some value)).Alike (.returns otherLine (some twin)) :=
  congrArg (fun node => Node.returns 0 (some node)) alike

theorem assign {form : Assignment} (alike : value.Alike twin) :
    (Node.assign line name form value).Alike (.assign otherLine name form twin) :=
  congrArg (Node.assign 0 name form) alike

theorem expression (alike : value.Alike twin) :
    (Node.expression line value).Alike (.expression otherLine twin) :=
  congrArg (Node.expression 0) alike

theorem unary {op : Operator} (alike : value.Alike twin) :
    (Node.unary line op value).Alike (.unary otherLine op twin) :=
  congrArg (Node.unary 0 op) alike

theorem function {parameters : List String} (alike : value.Alike twin) :
    (Node.function line name parameters value).Alike (.function otherLine name parameters twin) :=
  congrArg (Node.function 0 name parameters) alike

theorem binary {op : Operator} (lefts : left.Alike leftTwin) (rights : right.Alike rightTwin) :
    (Node.binary line op left right).Alike (.binary otherLine op leftTwin rightTwin) :=
  congrArg₂ (Node.binary 0 op) lefts rights

theorem whileLoop (tests : left.Alike leftTwin) (bodies : right.Alike rightTwin) :
    (Node.whileLoop line left right).Alike (.whileLoop otherLine leftTwin rightTwin) :=
  congrArg₂ (Node.whileLoop 0) tests bodies

theorem forLoop (elements : left.Alike leftTwin) (bodies : right.Alike rightTwin) :
    (Node.forLoop line name left right).Alike (.forLoop otherLine name leftTwin rightTwin) :=
  congrArg₂ (Node.forLoop 0 name) elements bodies

theorem conditional (tests : left.Alike leftTwin) (blocks : right.Alike rightTwin)
    {branch branchTwin : Option Node} (branches : Option.Rel Node.Alike branch branchTwin) :
    (Node.conditional line left right branch).Alike
      (.conditional otherLine leftTwin rightTwin branchTwin) := by
  have same : branch.map unplaced = branchTwin.map unplaced := by
    cases branches with
    | none => rfl
    | some alike => exact congrArg some alike
  unfold Node.Alike at tests blocks ⊢
  rw [unplaced_conditional, unplaced_conditional, tests, blocks, same]

end Node.Alike

namespace Grammar

def State.Alike (state other : State) : Prop :=
  List.Forall₂ Token.Alike state.cursor.ahead other.cursor.ahead

inductive Halt.Alike : Halt → Halt → Prop
  | fault {fault other : Fault} :
      fault.cause.Alike other.cause → Halt.Alike (.fault fault) (.fault other)
  | tooDeep : Halt.Alike .tooDeep .tooDeep

end Grammar

namespace Parser

open Grammar

variable {α β γ δ : Type} {results : α → β → Prop}

inductive Beside (results : α → β → Prop) :
    Except Halt α × State → Except Halt β × State → Prop
  | yields {result : α} {other : β} {next beside : State} :
      results result other → next.Alike beside → Beside results (.ok result, next) (.ok other, beside)
  | halts {halt other : Halt} {next beside : State} :
      halt.Alike other → Beside results (.error halt, next) (.error other, beside)

def Alike (results : α → β → Prop) (first : Parser α) (second : Parser β) : Prop :=
  ∀ state other, state.Alike other → Beside results (first.outcome state) (second.outcome other)

theorem Alike.bind {further : γ → δ → Prop} {first : Parser α} {second : Parser β}
    {next : α → Parser γ} {other : β → Parser δ} (head : Alike results first second)
    (tail : ∀ a b, results a b → Alike further (next a) (other b)) :
    Alike further (first >>= next) (second >>= other) := by
  intro state beside states
  have ended := head state beside states
  rw [outcome_bind, outcome_bind]
  generalize first.outcome state = left at ended
  generalize second.outcome beside = right at ended
  cases ended with
  | yields related reached => exact tail _ _ related _ _ reached
  | halts halted => exact .halts halted

theorem alike_pure {a : α} {b : β} (related : results a b) :
    Alike results (pure a) (pure b) :=
  fun _ _ states => .yields related states

end Parser

namespace Grammar

open Scriptlet.Parser

section Tokens

variable {tokens others : List Token} (alike : List.Forall₂ Token.Alike tokens others)

include alike

theorem alike_head : Option.Rel Token.Alike tokens.head? others.head? := by
  cases alike with
  | nil => exact .none
  | cons head _ => exact .some head

theorem alike_tail : List.Forall₂ Token.Alike tokens.tail others.tail := by
  cases alike with
  | nil => exact .nil
  | cons _ tail => exact tail

theorem alike_second : tokens[1]?.map Token.kind = others[1]?.map Token.kind := by
  rcases alike with _ | ⟨_, _ | ⟨second, _⟩⟩
  · rfl
  · rfl
  · exact congrArg some second.1

theorem leads_of_alike (kind : Token.Kind) (text : Option String) :
    leads kind text tokens = leads kind text others := by
  cases alike with
  | nil => rfl
  | cons head _ => simp [leads, Token.fits, head.1, head.2]

theorem skip_of_alike (kind : Token.Kind) (text : Option String) :
    List.Forall₂ Token.Alike (skip kind text tokens) (skip kind text others) := by
  unfold skip
  rw [leads_of_alike alike]
  by_cases leading : leads kind text others = true
  · rw [if_pos leading, if_pos leading]
    exact alike_tail alike
  · rw [if_neg leading, if_neg leading]
    exact alike

end Tokens

section Primitives

variable {α β : Type} {results : α → β → Prop}

theorem alike_fail {cause other : Cause} (causes : cause.Alike other) :
    Alike results (fail cause : Parser α) (fail other : Parser β) :=
  fun _ _ _ => .halts (.fault causes)

theorem alike_tooDeep : Alike results (tooDeep : Parser α) (tooDeep : Parser β) :=
  fun _ _ _ => .halts .tooDeep

theorem alike_peek : Alike (Option.Rel Token.Alike) peek? peek? :=
  fun _ _ states => .yields (alike_head states) states

theorem alike_nextKind : Alike Eq nextKind? nextKind? :=
  fun _ _ states => .yields (alike_second states) states

theorem alike_remaining : Alike (List.Forall₂ Token.Alike) remaining remaining :=
  fun _ _ states => .yields states states

theorem alike_noteStart (token other : Token) : Alike Eq (noteStart token) (noteStart other) :=
  fun _ _ states => .yields rfl states

theorem alike_advance : Alike Eq advance advance := by
  intro state other states
  refine .yields rfl ?_
  unfold State.Alike at states ⊢
  rw [ahead_advance, ahead_advance]
  exact alike_tail states

theorem alike_accept (kind : Token.Kind) (text : Option String) :
    Alike Eq (accept kind text) (accept kind text) := by
  intro state other states
  obtain ⟨next, run, ahead⟩ := accept_delivers kind text _ state rfl
  obtain ⟨beside, otherRun, otherAhead⟩ := accept_delivers kind text _ other rfl
  rw [run, otherRun]
  refine .yields (leads_of_alike states kind text) ?_
  unfold State.Alike
  rw [ahead, otherAhead]
  exact skip_of_alike states kind text

theorem State.Alike.ahead {state other : State} (states : state.Alike other) :
    (state.cursor.ahead = [] ∧ other.cursor.ahead = []) ∨
    ∃ token rest twin others, state.cursor.ahead = token :: rest ∧
      other.cursor.ahead = twin :: others ∧ token.Alike twin ∧
      List.Forall₂ Token.Alike rest others := by
  unfold State.Alike at states
  generalize state.cursor.ahead = tokens at states
  generalize other.cursor.ahead = others at states
  cases states with
  | nil => exact .inl ⟨rfl, rfl⟩
  | cons head tail => exact .inr ⟨_, _, _, _, rfl, rfl, head, tail⟩

theorem alike_take : Alike (Option.Rel Token.Alike) take? take? := by
  intro state other states
  have opened (state : State) : take?.outcome state =
      (.ok state.cursor.take.1, { state with cursor := state.cursor.take.2 }) := rfl
  rw [opened, opened]
  rcases states.ahead with ⟨ahead, otherAhead⟩ | ⟨_, _, _, _, ahead, otherAhead, head, tail⟩
  · simp only [Cursor.take, Cursor.peek?, ahead, otherAhead, List.head?_nil]
    exact .yields .none states
  · simp only [Cursor.take, Cursor.peek?, ahead, otherAhead, List.head?_cons]
    refine .yields (.some head) ?_
    unfold State.Alike
    rw [ahead_advance, ahead_advance, ahead, otherAhead]
    exact tail

/-- A token that does not fit, or its absence, is a fault. -/
theorem expect_refuses {kind : Token.Kind} {state : State}
    (unfit : ∀ token ∈ state.cursor.ahead.head?, token.kind ≠ kind) :
    ∃ next : State, (expect kind).outcome state =
      (.error (.fault (next.cursor.fault (.expected kind.shown state.cursor.ahead.head?))), next) := by
  rw [outcome_expect]
  unfold Cursor.expect Cursor.take Cursor.peek?
  cases head : state.cursor.ahead.head? with
  | none => exact ⟨_, rfl⟩
  | some token =>
      have refused : token.fits kind none = false := by
        simpa [Token.fits] using unfit token head
      simp only [refused, Bool.false_eq_true, if_false]
      exact ⟨{ state with cursor := state.cursor.advance }, rfl⟩

theorem alike_expect (kind : Token.Kind) :
    Alike Token.Alike (expect kind) (expect kind) := by
  intro state other states
  rcases states.ahead with ⟨ahead, otherAhead⟩ |
    ⟨token, rest, twin, others, ahead, otherAhead, head, tail⟩
  · obtain ⟨_, halted⟩ := @expect_refuses kind state (by simp [ahead])
    obtain ⟨_, otherHalted⟩ := @expect_refuses kind other (by simp [otherAhead])
    rw [halted, otherHalted, ahead, otherAhead]
    exact .halts (.fault (Cause.alike_refl _))
  · by_cases fitting : token.kind = kind
    · obtain ⟨next, run, nextAhead⟩ := expect_delivers fitting rest state ahead
      obtain ⟨beside, otherRun, besideAhead⟩ :=
        expect_delivers (head.1.symm.trans fitting) others other otherAhead
      rw [run, otherRun]
      refine .yields head ?_
      unfold State.Alike
      rw [nextAhead, besideAhead]
      exact tail
    · obtain ⟨_, halted⟩ := @expect_refuses kind state (by simpa [ahead] using fitting)
      obtain ⟨_, otherHalted⟩ := @expect_refuses kind other (by
        simpa [otherAhead, ← head.1] using fitting)
      rw [halted, otherHalted, ahead, otherAhead]
      obtain ⟨line, rfl⟩ := head.exists_line
      exact .halts (.fault ⟨rfl, rfl⟩)

theorem alike_expectName :
    Alike (fun found other => found.1 = other.1) expectName expectName := by
  refine (alike_expect .identifier).bind fun token _ alike => ?_
  obtain ⟨line, rfl⟩ := alike.exists_line
  have texts : Token.text? { token with line := line } = token.text? := rfl
  rw [texts]
  cases token.text? with
  | none => exact alike_fail ⟨rfl, rfl⟩
  | some name => exact alike_pure rfl

theorem alike_currentLine : Alike (fun _ _ => True) currentLine currentLine := by
  refine alike_peek.bind fun found twin alike => ?_
  cases alike with
  | none => exact fun _ _ states => .yields trivial states
  | some _ => exact alike_pure trivial

end Primitives

section Arguments

variable {item twin : Parser Node} (items : Alike Node.Alike item twin)

include items

theorem itemsUntil_alike (close : Token.Kind) {rounds others : List Token}
    (alike : List.Forall₂ Token.Alike rounds others) :
    Alike (List.Forall₂ Node.Alike) (itemsUntil close item rounds)
      (itemsUntil close twin others) := by
  induction alike with
  | nil => exact alike_pure .nil
  | cons _ _ ih =>
      refine alike_peek.bind fun _ _ found => ?_
      cases found with
      | none => exact alike_pure .nil
      | @some token _ alike =>
          obtain ⟨line, rfl⟩ := alike.exists_line
          dsimp only
          by_cases closes : (token.kind == close) = true
          · rw [if_pos closes, if_pos closes]
            exact alike_pure .nil
          · rw [if_neg closes, if_neg closes]
            exact items.bind fun _ _ first => ih.bind fun _ _ rest => alike_pure (.cons first rest)

theorem commaItem_alike : Alike Node.Alike (commaItem item) (commaItem twin) :=
  items.bind fun _ _ nodes => (alike_accept _ _).bind fun _ _ _ => alike_pure nodes

theorem bracketed_alike (opening close : Token.Kind) :
    Alike (fun found other => List.Forall₂ Node.Alike found.2 other.2)
      (bracketed opening close item) (bracketed opening close twin) := by
  refine (alike_expect opening).bind fun _ _ _ => alike_remaining.bind fun _ _ rounds => ?_
  refine (itemsUntil_alike (commaItem_alike items) close rounds).bind fun _ _ nodes => ?_
  exact (alike_expect close).bind fun _ _ _ => alike_pure nodes

theorem arrayLiteral_alike : Alike Node.Alike (arrayLiteral item) (arrayLiteral twin) := by
  exact (bracketed_alike items _ _).bind fun _ _ nodes => alike_pure (.array nodes)

theorem functionCall_alike : Alike Node.Alike (functionCall item) (functionCall twin) := by
  refine alike_expectName.bind fun _ _ name => (bracketed_alike items _ _).bind fun _ _ nodes =>
    alike_pure ?_
  rw [name]
  exact .call nodes

theorem moduleAccess_alike : Alike Node.Alike (moduleAccess item) (moduleAccess twin) := by
  refine alike_expectName.bind fun _ _ moduleName => (alike_accept _ _).bind fun _ _ _ =>
    alike_expectName.bind fun _ _ name => (bracketed_alike items _ _).bind fun _ _ nodes =>
      alike_pure ?_
  rw [moduleName, name]
  exact .member nodes

theorem condition_alike : Alike Node.Alike (condition item) (condition twin) :=
  (alike_expect _).bind fun _ _ _ => items.bind fun _ _ nodes =>
    (alike_expect _).bind fun _ _ _ => alike_pure nodes

theorem returnStatement_alike : Alike Node.Alike (returnStatement item) (returnStatement twin) := by
  refine alike_currentLine.bind fun _ _ _ => (alike_accept _ _).bind fun _ _ _ =>
    alike_peek.bind fun _ _ found => ?_
  cases found with
  | none => exact alike_fail (Cause.alike_refl _)
  | @some token _ alike =>
      obtain ⟨line, rfl⟩ := alike.exists_line
      dsimp only
      by_cases ends : (token.kind == .semicolon) = true
      · rw [if_pos ends, if_pos ends]
        exact (alike_expect _).bind fun _ _ _ => alike_pure rfl
      · rw [if_neg ends, if_neg ends]
        exact items.bind fun _ _ value => (alike_expect _).bind fun _ _ _ =>
          alike_pure (.returns value)

theorem assignment_alike : Alike Node.Alike (assignment item) (assignment twin) := by
  refine alike_expectName.bind fun _ _ name => alike_take.bind fun _ _ found => ?_
  cases found with
  | none => exact alike_fail (Cause.alike_refl _)
  | @some token _ alike =>
      obtain ⟨line, rfl⟩ := alike.exists_line
      have forms : assignmentForm? { token with line := line } = assignmentForm? token := rfl
      simp only [forms]
      cases assignmentForm? token with
      | none => exact alike_fail ⟨rfl, rfl⟩
      | some form =>
          refine items.bind fun _ _ value => (alike_expect _).bind fun _ _ _ => alike_pure ?_
          rw [name]
          exact .assign value

theorem expressionStatement_alike :
    Alike Node.Alike (expressionStatement item) (expressionStatement twin) := by
  exact items.bind fun _ _ value => (alike_expect _).bind fun _ _ _ =>
    alike_pure (.expression value)

theorem plainStatement_alike (token : Token) (line : Nat) :
    Alike Node.Alike (plainStatement item token)
      (plainStatement twin { token with line := line }) := by
  refine alike_nextKind.bind fun next _ same => ?_
  subst same
  dsimp only
  by_cases assigning : (token.kind == .identifier && next.any assigns) = true
  · rw [if_pos assigning, if_pos assigning]
    exact assignment_alike items
  · rw [if_neg assigning, if_neg assigning]
    by_cases starting : startsExpression token.kind = true
    · rw [if_pos starting, if_pos starting]
      exact expressionStatement_alike items
    · rw [if_neg starting, if_neg starting]
      exact alike_fail ⟨rfl, rfl⟩

omit items in
theorem parameters_alike {rounds others : List Token}
    (alike : List.Forall₂ Token.Alike rounds others) :
    Alike Eq (parameters rounds) (parameters others) := by
  induction alike with
  | nil => exact alike_fail (Cause.alike_refl _)
  | cons _ _ ih =>
      refine alike_peek.bind fun _ _ found => ?_
      cases found with
      | none => exact alike_fail (Cause.alike_refl _)
      | @some token _ alike =>
          obtain ⟨line, rfl⟩ := alike.exists_line
          have names : Token.identifier? { token with line := line } = token.identifier? := rfl
          simp only [names]
          by_cases closes : (token.kind == .closeParen) = true
          · rw [if_pos closes, if_pos closes]
            exact alike_pure rfl
          · rw [if_neg closes, if_neg closes]
            cases token.identifier? with
            | none => exact alike_fail ⟨rfl, rfl⟩
            | some name =>
                refine alike_advance.bind fun _ _ _ => (alike_accept _ _).bind fun _ _ _ =>
                  ih.bind fun _ _ same => alike_pure ?_
                rw [same]

theorem functionDefinition_alike :
    Alike Node.Alike (functionDefinition item) (functionDefinition twin) := by
  refine (alike_accept _ _).bind fun _ _ _ => alike_expectName.bind fun _ _ name =>
    (alike_expect _).bind fun _ _ _ => alike_remaining.bind fun _ _ rounds =>
      (parameters_alike rounds).bind fun _ _ parameters => (alike_expect _).bind fun _ _ _ =>
        items.bind fun _ _ body => alike_pure ?_
  rw [name, parameters]
  exact .function body

omit items in
theorem importStatement_alike : Alike Node.Alike importStatement importStatement := by
  refine (alike_accept _ _).bind fun _ _ _ => alike_take.bind fun _ _ found => ?_
  cases found with
  | none => exact alike_fail (Cause.alike_refl _)
  | @some token _ alike =>
      obtain ⟨line, rfl⟩ := alike.exists_line
      have names : Token.identifier? { token with line := line } = token.identifier? := rfl
      simp only [names]
      cases token.identifier? with
      | none => exact alike_fail ⟨rfl, rfl⟩
      | some name => exact (alike_expect _).bind fun _ _ _ => alike_pure rfl

variable {block twinBlock : Parser Node} (blocks : Alike Node.Alike block twinBlock)

include blocks

theorem whileLoop_alike : Alike Node.Alike (whileLoop item block) (whileLoop twin twinBlock) := by
  exact alike_currentLine.bind fun _ _ _ => (alike_accept _ _).bind fun _ _ _ =>
    (condition_alike items).bind fun _ _ test => blocks.bind fun _ _ body =>
      alike_pure (.whileLoop test body)

theorem forLoop_alike : Alike Node.Alike (forLoop item block) (forLoop twin twinBlock) := by
  refine alike_currentLine.bind fun _ _ _ => (alike_accept _ _).bind fun _ _ _ =>
    (alike_expect _).bind fun _ _ _ => alike_take.bind fun _ _ found => ?_
  cases found with
  | none => exact alike_fail (Cause.alike_refl _)
  | @some token _ alike =>
      obtain ⟨line, rfl⟩ := alike.exists_line
      have names : Token.identifier? { token with line := line } = token.identifier? := rfl
      simp only [names]
      cases token.identifier? with
      | none => exact alike_fail ⟨rfl, rfl⟩
      | some element =>
          exact (alike_expect _).bind fun _ _ _ => (condition_alike items).bind
            fun _ _ elements => blocks.bind fun _ _ body => alike_pure (.forLoop elements body)

end Arguments

theorem climb_alike {operand twin : Nat → Parser Node}
    (operands : ∀ floor, Alike Node.Alike (operand floor) (twin floor)) (floor : Nat)
    {rounds others : List Token} (alike : List.Forall₂ Token.Alike rounds others) {left other : Node}
    (lefts : left.Alike other) :
    Alike Node.Alike (climb operand floor rounds left) (climb twin floor others other) := by
  induction alike generalizing left other with
  | nil => exact alike_pure lefts
  | cons _ _ ih =>
      refine alike_peek.bind fun _ _ found => ?_
      cases found with
      | none => exact alike_pure lefts
      | @some token _ alike =>
          obtain ⟨line, rfl⟩ := alike.exists_line
          have operators : binaryOperator? { token with line := line } = binaryOperator? token := rfl
          simp only [operators]
          rcases binaryOperator? token with _ | ⟨op, precedence⟩
          · exact alike_pure lefts
          · dsimp only
            by_cases loose : precedence < floor
            · rw [if_pos loose, if_pos loose]
              exact alike_pure lefts
            · rw [if_neg loose, if_neg loose]
              exact alike_advance.bind fun _ _ _ => (operands precedence).bind
                fun _ _ rights => ih (.binary lefts rights)

theorem primary_alike {depth : Nat}
    (deeper : ∀ floor, Alike Node.Alike (expression depth floor) (expression depth floor)) :
    Alike Node.Alike (primary (depth + 1)) (primary (depth + 1)) := by
  rw [primary]
  refine alike_peek.bind fun _ _ found => ?_
  cases found with
  | none => exact alike_fail (Cause.alike_refl _)
  | @some token _ alike =>
      obtain ⟨line, rfl⟩ := alike.exists_line
      dsimp only
      split
      next text _ _ =>
        by_cases isUnary : (Operator.ofText text).isUnary = true
        · rw [if_pos isUnary, if_pos isUnary]
          exact alike_advance.bind fun _ _ _ => (deeper _).bind fun _ _ operand =>
            alike_pure (.unary operand)
        · rw [if_neg isUnary, if_neg isUnary]
          exact alike_fail ⟨rfl, rfl⟩
      · exact arrayLiteral_alike (deeper 0)
      · exact alike_advance.bind fun _ _ _ => alike_pure rfl
      · exact alike_advance.bind fun _ _ _ => alike_pure rfl
      · exact alike_advance.bind fun _ _ _ => alike_pure rfl
      · refine alike_nextKind.bind fun next _ same => ?_
        subst same
        split
        · exact functionCall_alike (deeper 0)
        · exact moduleAccess_alike (deeper 0)
        · exact alike_advance.bind fun _ _ _ => alike_pure rfl
      · exact alike_advance.bind fun _ _ _ => (deeper 0).bind fun _ _ nodes =>
          (alike_expect _).bind fun _ _ _ => alike_pure nodes
      · exact alike_fail ⟨rfl, rfl⟩

theorem expression_rules_alike (depth : Nat) :
    Alike Node.Alike (primary depth) (primary depth) ∧
    ∀ floor, Alike Node.Alike (expression depth floor) (expression depth floor) := by
  induction depth with
  | zero =>
      constructor
      · rw [primary]
        exact alike_tooDeep
      · intro floor
        rw [expression]
        exact alike_tooDeep
  | succ depth ih =>
      refine ⟨primary_alike ih.2, fun floor => ?_⟩
      rw [expression]
      exact ih.1.bind fun _ _ left => alike_remaining.bind fun _ _ rounds =>
        climb_alike ih.2 floor rounds left

theorem expression_alike (depth floor : Nat) :
    Alike Node.Alike (expression depth floor) (expression depth floor) :=
  (expression_rules_alike depth).2 floor

theorem conditional_alike {depth : Nat} (blocks : Alike Node.Alike (block depth) (block depth))
    (deeper : Alike Node.Alike (conditional depth) (conditional depth)) :
    Alike Node.Alike (conditional (depth + 1)) (conditional (depth + 1)) := by
  rw [conditional]
  refine alike_currentLine.bind fun _ _ _ => (alike_accept _ _).bind fun _ _ _ =>
    (condition_alike (expression_alike depth 0)).bind fun _ _ test => blocks.bind
      fun _ _ thenBlock => (alike_accept _ _).bind fun another _ same => ?_
  subst same
  cases another with
  | true =>
      exact deeper.bind fun _ _ elseNode => alike_pure (.conditional test thenBlock (.some elseNode))
  | false =>
      refine (alike_accept _ _).bind fun last _ same => ?_
      subst same
      cases last with
      | true =>
          exact blocks.bind fun _ _ elseNode =>
            alike_pure (.conditional test thenBlock (.some elseNode))
      | false =>
          exact alike_pure (.conditional test thenBlock .none)

theorem statement_alike {depth : Nat} (blocks : Alike Node.Alike (block depth) (block depth))
    (deeper : Alike Node.Alike (conditional depth) (conditional depth)) :
    Alike Node.Alike (statement (depth + 1)) (statement (depth + 1)) := by
  have items := expression_alike depth 0
  rw [statement]
  refine alike_peek.bind fun _ _ found => ?_
  cases found with
  | none => exact alike_fail (Cause.alike_refl _)
  | @some token _ alike =>
      obtain ⟨line, rfl⟩ := alike.exists_line
      have texts : Token.text? { token with line := line } = token.text? := rfl
      refine (alike_noteStart _ _).bind fun _ _ _ => ?_
      simp only [texts]
      split
      · split
        · exact deeper
        · exact whileLoop_alike items blocks
        · exact forLoop_alike items blocks
        · exact functionDefinition_alike blocks
        · exact returnStatement_alike items
        · exact importStatement_alike
        · exact alike_fail ⟨rfl, rfl⟩
      · exact plainStatement_alike items token line

theorem statement_rules_alike (depth : Nat) :
    Alike Node.Alike (sequence depth) (sequence depth) ∧
    Alike Node.Alike (block depth) (block depth) ∧
    Alike Node.Alike (conditional depth) (conditional depth) ∧
    Alike Node.Alike (statement depth) (statement depth) := by
  induction depth with
  | zero =>
      rw [sequence, block, conditional, statement]
      exact ⟨alike_tooDeep, alike_tooDeep, alike_tooDeep, alike_tooDeep⟩
  | succ depth ih =>
      obtain ⟨sequences, blocks, conditionals, statements⟩ := ih
      refine ⟨?_, ?_, conditional_alike blocks conditionals, statement_alike blocks conditionals⟩
      · rw [sequence]
        exact alike_currentLine.bind fun _ _ _ => alike_remaining.bind fun _ _ rounds =>
          (itemsUntil_alike statements _ rounds).bind fun _ _ nodes => alike_pure (.sequence nodes)
      · rw [block]
        exact (alike_expect _).bind fun _ _ _ => sequences.bind fun _ _ body =>
          (alike_expect _).bind fun _ _ _ => alike_pure body

theorem program_alike (depth : Nat) : Alike Node.Alike (program depth) (program depth) := by
  refine (statement_rules_alike depth).1.bind fun _ _ nodes => alike_peek.bind fun _ _ found => ?_
  cases found with
  | none => exact alike_pure nodes
  | some alike =>
      obtain ⟨line, rfl⟩ := alike.exists_line
      exact alike_fail ⟨rfl, rfl⟩

end Grammar

end Scriptlet
