import Scriptlet.Proofs.Grammar.Conduct
import Scriptlet.Proofs.Grammar.Depth

/-!
Parsing a whole token list, in terms of readings. Where the recursion limit is not reached, parsing
gives a tree if and only if the tokens can be read as statements to their end. A limit that is
ample for the number of tokens is not reached.
-/

namespace Scriptlet

namespace Grammar

open Scriptlet.Parser

variable {state next : State}

/-- A recursion limit under which no list of this many tokens nests too deep. -/
def ampleLimit (tokens : List Token) : Nat :=
  4 * tokens.length + 8

def firstLine (tokens : List Token) : Nat :=
  (tokens.head?.map Token.line).getD 1

theorem program_yields {depth : Nat} {node : Node}
    (run : (program depth).Yields state node next) :
    ∃ nodes, node = .sequence state.line nodes ∧
      Reading (.statements nodes) state.cursor.ahead [] ∧ next.cursor.ahead = [] := by
  unfold program at run
  obtain ⟨tree, reached, sequenceRun, rest⟩ := yields_bind.mp run
  obtain ⟨nodes, rfl, reading⟩ := (statement_rules_make depth).1 _ _ _ sequenceRun
  obtain ⟨found, _, peeked, rest⟩ := yields_bind.mp rest
  obtain ⟨head, rfl⟩ := peek_yields peeked
  cases found with
  | some token => exact absurd rest not_yields_fail
  | none =>
      obtain ⟨rfl, rfl⟩ := yields_pure.mp rest
      have finished := List.head?_eq_none_iff.mp head
      rw [finished] at reading
      exact ⟨nodes, rfl, reading, finished⟩

theorem program_of_reading {depth : Nat} {nodes : List Node}
    (reading : Reading (.statements nodes) state.cursor.ahead [])
    (enough : 2 * state.cursor.ahead.length + 4 ≤ depth) :
    ∃ next, (program depth).Yields state (.sequence state.line nodes) next := by
  obtain ⟨depth, rfl⟩ : ∃ less, depth = less + 1 := ⟨depth - 1, by omega⟩
  have here : currentLine.Yields state state.line state := by
    have peeked : peek?.Yields state state.cursor.ahead.head? state := rfl
    unfold currentLine State.line
    cases head : state.cursor.ahead.head? with
    | none => exact yields_bind.mpr ⟨none, state, head ▸ peeked, rfl⟩
    | some token => exact yields_bind.mpr ⟨some token, state, head ▸ peeked, rfl⟩
  obtain ⟨last, statementsRun, lastAhead⟩ :=
    reading.delivered depth state.cursor.ahead (by omega) (Nat.le_refl _) state rfl
  have sequenceRun : (sequence (depth + 1)).Yields state (.sequence state.line nodes) last := by
    rw [sequence]
    refine yields_bind.mpr ⟨_, _, here, ?_⟩
    refine yields_bind.mpr ⟨_, state, rfl, ?_⟩
    exact yields_bind.mpr ⟨nodes, last, statementsRun, yields_pure.mpr ⟨rfl, rfl⟩⟩
  refine ⟨last, ?_⟩
  unfold program
  refine yields_bind.mpr ⟨_, last, sequenceRun, ?_⟩
  refine yields_bind.mpr ⟨none, last, ?_, yields_pure.mpr ⟨rfl, rfl⟩⟩
  change ((Except.ok last.cursor.ahead.head?, last) : Except Halt (Option Token) × State) = _
  rw [lastAhead]
  rfl

end Grammar

namespace Node

open Grammar

variable {limit : Nat} {tokens : List Token} {file : Option String}

def initial (tokens : List Token) (file : Option String) : State :=
  { cursor := .start tokens file }

theorem line_initial (tokens : List Token) (file : Option String) :
    (initial tokens file).line = firstLine tokens := by
  unfold State.line firstLine initial Cursor.start
  cases tokens <;> rfl

theorem parse_eq_outcome (limit : Nat) (tokens : List Token) (file : Option String) :
    Node.parse limit tokens file =
      match (program (depthOf limit)).outcome (initial tokens file) with
      | (.ok tree, state) => (.ok tree, state)
      | (.error (.fault fault), state) => (.error fault, state)
      | (.error .tooDeep, state) => (.error (state.cursor.fault .nestingTooDeep), state) := by
  unfold Node.parse Parser.run Parser.outcome initial
  rcases ExceptT.run (program (depthOf limit)) { cursor := .start tokens file } with
    ⟨(_ | _) | _, _⟩ <;> rfl

theorem parse_eq_ok_iff {tree : Node} {state : State} :
    Node.parse limit tokens file = (.ok tree, state) ↔
      (program (depthOf limit)).Yields (initial tokens file) tree state := by
  rw [parse_eq_outcome, Parser.Yields]
  rcases (program (depthOf limit)).outcome (initial tokens file) with ⟨(_ | _) | _, _⟩ <;> simp

theorem reading_of_parse {tree : Node} (parsed : (Node.parse limit tokens file).1 = .ok tree) :
    ∃ nodes, tree = .sequence (firstLine tokens) nodes ∧ Reading (.statements nodes) tokens [] ∧
      (Node.parse limit tokens file).2.cursor.ahead = [] := by
  have run := parse_eq_ok_iff.mp (Prod.ext parsed rfl)
  obtain ⟨nodes, rfl, reading, finished⟩ := program_yields run
  exact ⟨nodes, by rw [line_initial], reading, finished⟩

/-- However parsing ends, the cursor has moved over the tokens it was given. -/
theorem parse_moves (limit : Nat) (tokens : List Token) (file : Option String) :
    (Cursor.start tokens file).Moves (Node.parse limit tokens file).2.cursor := by
  have conduct : Conducts (program (depthOf limit)) (initial tokens file) True :=
    conducts_program (.inr trivial)
  have moves := conduct.moves
  rw [parse_eq_outcome]
  rcases ended : (program (depthOf limit)).outcome (initial tokens file) with
    ⟨(_ | _) | _, state⟩ <;> rw [ended] at moves <;> exact moves

theorem parse_consumes {tree : Node} (parsed : (Node.parse limit tokens file).1 = .ok tree) :
    (Node.parse limit tokens file).2.cursor.ahead = [] ∧
      (Node.parse limit tokens file).2.cursor.index = tokens.length := by
  obtain ⟨_, _, _, finished⟩ := reading_of_parse parsed
  have moves := parse_moves limit tokens file
  have consumed := moves.sameTokens
  rw [Cursor.tokens, finished, List.append_nil] at consumed
  refine ⟨finished, ?_⟩
  rw [Cursor.index, moves.sameOverrun, ← List.length_reverse, consumed]
  simp [Cursor.start, Cursor.tokens]

/-- Parsing fails at the line reached. -/
theorem fault_of_parse_at {fault : Fault}
    (failed : (Node.parse limit tokens file).1 = .error fault) :
    fault = (Node.parse limit tokens file).2.cursor.fault fault.cause ∧
      (fault.cause.isSyntactic = true ∨ fault.cause = .nestingTooDeep) := by
  have conduct : Conducts (program (depthOf limit)) (initial tokens file) True :=
    conducts_program (.inr trivial)
  have halts := conduct.halts
  rw [parse_eq_outcome] at failed ⊢
  rcases ended : (program (depthOf limit)).outcome (initial tokens file) with
    ⟨(met | _) | _, state⟩
  · rw [ended] at failed halts
    cases failed
    obtain ⟨reached, syntactic⟩ := halts _ rfl
    exact ⟨reached, .inl syntactic⟩
  · rw [ended] at failed
    cases failed
    exact ⟨rfl, .inr rfl⟩
  · rw [ended] at failed
    cases failed

/-- Parsing fails for how the tokens break the grammar, or for want of depth. -/
theorem fault_of_parse {fault : Fault} (failed : (Node.parse limit tokens file).1 = .error fault) :
    fault.cause.isSyntactic = true ∨ fault.cause = .nestingTooDeep :=
  (fault_of_parse_at failed).2

def WithinLimit (limit : Nat) (tokens : List Token) (file : Option String) : Prop :=
  ∀ fault, (Node.parse limit tokens file).1 = .error fault → fault.cause ≠ .nestingTooDeep

theorem depthOf_ample (ample : ampleLimit tokens ≤ limit) :
    2 * (initial tokens file).cursor.ahead.length + 4 ≤ depthOf limit := by
  change 2 * tokens.length + 4 ≤ limit / 2
  unfold ampleLimit at ample
  omega

theorem withinLimit_of_ample (ample : ampleLimit tokens ≤ limit) :
    WithinLimit limit tokens file := by
  intro fault failed deep
  have conduct : Conducts (program (depthOf limit)) (initial tokens file) False :=
    conducts_program (.inl (depthOf_ample ample))
  have halts := conduct.halts
  rw [parse_eq_outcome] at failed
  rcases ended : (program (depthOf limit)).outcome (initial tokens file) with
    ⟨(met | _) | _, state⟩
  · rw [ended] at failed halts
    cases failed
    have syntactic := (halts _ rfl).2
    rw [deep] at syntactic
    cases syntactic
  · rw [ended] at halts
    exact halts _ rfl
  · rw [ended] at failed
    cases failed

/-- A limit that is not reached may as well be greater. -/
theorem WithinLimit.parse_eq {more : Nat} (within : WithinLimit limit tokens file)
    (greater : limit ≤ more) :
    Node.parse limit tokens file = Node.parse more tokens file := by
  have deeper : depthOf limit ≤ depthOf more := Nat.div_le_div_right greater
  rcases program_approximates deeper (initial tokens file) with halted | same
  · exfalso
    rcases ended : (program (depthOf limit)).outcome (initial tokens file) with ⟨ending, state⟩
    rw [ended] at halted
    cases halted
    refine within (state.cursor.fault .nestingTooDeep) ?_ rfl
    rw [parse_eq_outcome, ended]
  · rw [parse_eq_outcome, parse_eq_outcome, same]

theorem parse_of_reading {nodes : List Node} (reading : Reading (.statements nodes) tokens [])
    (within : WithinLimit limit tokens file) :
    (Node.parse limit tokens file).1 = .ok (.sequence (firstLine tokens) nodes) := by
  have read : Reading (.statements nodes) (initial tokens file).cursor.ahead [] := reading
  -- Parse under an ample limit, which changes nothing where the given one is not reached.
  have ample : ampleLimit tokens ≤ max limit (ampleLimit tokens) := Nat.le_max_right _ _
  obtain ⟨state, run⟩ := program_of_reading read (depthOf_ample ample)
  rw [line_initial] at run
  rw [within.parse_eq (Nat.le_max_left limit (ampleLimit tokens)), parse_eq_ok_iff.mpr run]

end Node

end Scriptlet
