import Scriptlet.Grammar.Statement

/-!
How the rules of the grammar run. `Yields` is one successful run between two states; `Delivers`
says that a rule succeeds from every state with given tokens ahead, whatever was consumed before.
-/

namespace Scriptlet

namespace Parser

variable {α β : Type}

def outcome (parser : Parser α) (state : Grammar.State) :
    Except Grammar.Halt α × Grammar.State :=
  ExceptT.run parser state

def Yields (parser : Parser α) (state : Grammar.State) (result : α) (next : Grammar.State) :
    Prop :=
  parser.outcome state = (.ok result, next)

def Delivers (parser : Parser α) (before : List Token) (result : α) (after : List Token) :
    Prop :=
  ∀ state : Grammar.State, state.cursor.ahead = before →
    ∃ next, parser.Yields state result next ∧ next.cursor.ahead = after

theorem outcome_bind (parser : Parser α) (next : α → Parser β) (state : Grammar.State) :
    outcome (parser >>= next) state =
      match parser.outcome state with
      | (.ok result, reached) => (next result).outcome reached
      | (.error halt, reached) => (.error halt, reached) := by
  change (match parser state with | (ending, reached) => ExceptT.bindCont next ending reached) =
    match parser state with
    | (.ok result, reached) => (next result).outcome reached
    | (.error halt, reached) => (.error halt, reached)
  rcases parser state with ⟨_ | _, _⟩ <;> rfl

theorem yields_bind {parser : Parser α} {next : α → Parser β} {state last : Grammar.State}
    {result : β} :
    Yields (parser >>= next) state result last ↔
      ∃ first reached, parser.Yields state first reached ∧
        (next first).Yields reached result last := by
  unfold Yields
  rw [outcome_bind]
  rcases ended : parser.outcome state with ⟨halt | first, reached⟩
  · simp
  · constructor
    · intro rest
      exact ⟨first, reached, rfl, rest⟩
    · rintro ⟨_, _, same, rest⟩
      cases same
      exact rest

@[simp] theorem yields_pure {given result : α} {state next : Grammar.State} :
    Yields (pure given) state result next ↔ given = result ∧ state = next := by
  change ((Except.ok given, state) : Except Grammar.Halt α × Grammar.State) =
    (.ok result, next) ↔ _
  simp

theorem delivers_pure (result : α) (tokens : List Token) :
    Delivers (pure result) tokens result tokens := by
  intro state ahead
  exact ⟨state, rfl, ahead⟩

theorem Delivers.bind {parser : Parser α} {next : α → Parser β} {first : α} {result : β}
    {before middle after : List Token} (head : parser.Delivers before first middle)
    (tail : (next first).Delivers middle result after) :
    Delivers (parser >>= next) before result after := by
  intro state ahead
  obtain ⟨reached, headYields, reachedAhead⟩ := head state ahead
  obtain ⟨last, tailYields, lastAhead⟩ := tail reached reachedAhead
  exact ⟨last, yields_bind.mpr ⟨first, reached, headYields, tailYields⟩, lastAhead⟩

end Parser

namespace Grammar

open Scriptlet.Parser

variable {α : Type} {state next : State}

def leads (kind : Token.Kind) (text : Option String) (tokens : List Token) : Bool :=
  tokens.head?.any fun token => token.fits kind (text.map Token.Payload.text)

def skip (kind : Token.Kind) (text : Option String) (tokens : List Token) : List Token :=
  if leads kind text tokens then tokens.tail else tokens

theorem ahead_advance (cursor : Cursor) : cursor.advance.ahead = cursor.ahead.tail := by
  unfold Cursor.advance
  cases cursor.ahead <;> rfl

theorem peek_yields {found : Option Token} (run : peek?.Yields state found next) :
    state.cursor.ahead.head? = found ∧ state = next := by
  cases run
  exact ⟨rfl, rfl⟩

theorem peek_delivers (tokens : List Token) : peek?.Delivers tokens tokens.head? tokens := by
  rintro state rfl
  exact ⟨state, rfl, rfl⟩

theorem remaining_yields {tokens : List Token} (run : remaining.Yields state tokens next) :
    state.cursor.ahead = tokens ∧ state = next := by
  cases run
  exact ⟨rfl, rfl⟩

theorem remaining_delivers (tokens : List Token) : remaining.Delivers tokens tokens tokens := by
  rintro state rfl
  exact ⟨state, rfl, rfl⟩

theorem nextKind_yields {kind : Option Token.Kind} (run : nextKind?.Yields state kind next) :
    state.cursor.ahead[1]?.map Token.kind = kind ∧ state = next := by
  cases run
  exact ⟨rfl, rfl⟩

theorem nextKind_delivers (tokens : List Token) :
    nextKind?.Delivers tokens (tokens[1]?.map Token.kind) tokens := by
  rintro state rfl
  exact ⟨state, rfl, rfl⟩

theorem advance_yields {done : Unit} (run : advance.Yields state done next) :
    next.cursor.ahead = state.cursor.ahead.tail := by
  cases run
  exact ahead_advance _

theorem advance_delivers (token : Token) (rest : List Token) :
    advance.Delivers (token :: rest) () rest := by
  intro state ahead
  exact ⟨_, rfl, by rw [ahead_advance, ahead]; rfl⟩

theorem noteStart_yields {token : Token} {done : Unit}
    (run : (noteStart token).Yields state done next) :
    next.cursor.ahead = state.cursor.ahead := by
  cases run
  rfl

theorem noteStart_delivers (token : Token) (tokens : List Token) :
    (noteStart token).Delivers tokens () tokens := by
  rintro state rfl
  exact ⟨_, rfl, rfl⟩

@[simp] theorem not_yields_fail {cause : Cause} {result : α} :
    ¬ (fail cause).Yields state result next := by
  rintro ⟨⟩

@[simp] theorem not_yields_tooDeep {result : α} : ¬ tooDeep.Yields state result next := by
  rintro ⟨⟩

theorem take_yields {found : Option Token} (run : take?.Yields state found next) :
    state.cursor.ahead.head? = found ∧ next.cursor.ahead = state.cursor.ahead.tail := by
  cases run
  dsimp only [Cursor.take, Cursor.peek?]
  cases ahead : state.cursor.ahead with
  | nil => simp [ahead]
  | cons token rest => simp [ahead, ahead_advance]

theorem take_delivers (token : Token) (rest : List Token) :
    take?.Delivers (token :: rest) (some token) rest := by
  intro state ahead
  refine ⟨{ state with cursor := state.cursor.take.2 }, ?_, ?_⟩
  · change ((Except.ok state.cursor.take.1, _) : Except Halt (Option Token) × State) = _
    simp [Cursor.take, Cursor.peek?, ahead]
  · simp [Cursor.take, Cursor.peek?, ahead, ahead_advance]

theorem cursor_accept (cursor : Cursor) (kind : Token.Kind) (text : Option String) :
    (cursor.accept kind (text.map Token.Payload.text)).1 = leads kind text cursor.ahead ∧
      (cursor.accept kind (text.map Token.Payload.text)).2.ahead =
        skip kind text cursor.ahead := by
  unfold Cursor.accept Cursor.peek? skip leads
  cases ahead : cursor.ahead with
  | nil => simp [ahead]
  | cons token rest =>
      by_cases fitting : token.fits kind (text.map Token.Payload.text) = true
      · simp [fitting, ahead_advance, ahead]
      · simp [fitting, ahead]

theorem accept_yields {kind : Token.Kind} {text : Option String} {accepted : Bool}
    (run : (accept kind text).Yields state accepted next) :
    accepted = leads kind text state.cursor.ahead ∧
      next.cursor.ahead = skip kind text state.cursor.ahead := by
  cases run
  exact cursor_accept state.cursor kind text

theorem accept_delivers (kind : Token.Kind) (text : Option String) (tokens : List Token) :
    (accept kind text).Delivers tokens (leads kind text tokens) (skip kind text tokens) := by
  rintro state rfl
  obtain ⟨answer, ahead⟩ := cursor_accept state.cursor kind text
  refine ⟨{ state with cursor := (state.cursor.accept kind (text.map .text)).2 }, ?_, ahead⟩
  rw [← answer]
  rfl

theorem outcome_expect (kind : Token.Kind) (state : State) :
    (expect kind).outcome state =
      ((state.cursor.expect kind none).1.mapError .fault,
        { state with cursor := (state.cursor.expect kind none).2 }) := by
  have looked : (get : Parser State).Yields state state state := rfl
  unfold expect
  rw [outcome_bind, show outcome get state = (.ok state, state) from looked]
  dsimp only
  rcases state.cursor.expect kind none with ⟨_ | _, _⟩ <;> rfl

theorem expect_yields {kind : Token.Kind} {token : Token}
    (run : (expect kind).Yields state token next) :
    state.cursor.ahead = token :: next.cursor.ahead ∧ token.kind = kind := by
  unfold Yields at run
  rw [outcome_expect] at run
  unfold Cursor.expect Cursor.take Cursor.peek? at run
  cases ahead : state.cursor.ahead with
  | nil =>
      simp only [ahead, List.head?_nil, Prod.mk.injEq] at run
      cases run.1
  | cons first rest =>
      by_cases fitting : first.kind = kind
      · simp only [ahead, List.head?_cons, Token.fits, fitting, BEq.rfl, Bool.and_self, if_true,
          Prod.mk.injEq] at run
        obtain ⟨found, rfl⟩ := run
        cases found
        simp [ahead_advance, ahead, fitting]
      · simp only [ahead, List.head?_cons, Token.fits, Bool.and_true, beq_iff_eq, fitting, if_false,
          Prod.mk.injEq] at run
        cases run.1

theorem expect_delivers {token : Token} {kind : Token.Kind} (fitting : token.kind = kind)
    (rest : List Token) : (expect kind).Delivers (token :: rest) token rest := by
  intro state ahead
  refine ⟨{ state with cursor := state.cursor.advance }, ?_, ?_⟩
  · unfold Yields
    rw [outcome_expect]
    simp only [Cursor.expect, Cursor.take, Cursor.peek?, ahead, List.head?_cons, Token.fits,
      fitting, BEq.rfl, Bool.and_self, if_true]
    rfl
  · simp [ahead_advance, ahead]

theorem expectName_yields {name : String} {line : Nat}
    (run : expectName.Yields state (name, line) next) :
    ∃ token, state.cursor.ahead = token :: next.cursor.ahead ∧ token.kind = .identifier ∧
      token.payload = some (.text name) ∧ line = token.line := by
  unfold expectName at run
  obtain ⟨token, reached, expected, named⟩ := yields_bind.mp run
  obtain ⟨ahead, kind⟩ := expect_yields expected
  unfold Token.text? at named
  split at named
  next text found =>
    split at found
    next written payload =>
      cases found
      cases named
      exact ⟨token, ahead, kind, payload, rfl⟩
    next => cases found
  next => cases named

end Grammar

end Scriptlet
