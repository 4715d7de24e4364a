import Scriptlet.Cursor
import Scriptlet.Proofs.TokenStream

/-!
Where a cursor stands. The tokens behind a cursor and those ahead of it are always the list it was
started on, and everything it tells can be read off that list and the index. So it answers every
operation as the stream does that stores the list, the index and the line reached.
-/

namespace Scriptlet

namespace Cursor

variable {cursor : Cursor}

theorem index_eq_length (inside : cursor.overrun = 0) :
    cursor.index = cursor.consumed.reverse.length := by
  rw [index, inside, List.length_reverse, Nat.add_zero]

theorem getLast_take_tokens (inside : cursor.overrun = 0) :
    (cursor.tokens.take cursor.index).getLast? = cursor.consumed.head? := by
  rw [index_eq_length inside, tokens, List.take_left, List.getLast?_reverse]

theorem getElem_tokens (inside : cursor.overrun = 0) :
    cursor.tokens[cursor.index]? = cursor.ahead.head? := by
  rw [index_eq_length inside, tokens, List.getElem?_append_right (Nat.le_refl _), Nat.sub_self,
    List.head?_eq_getElem?]

theorem lastLine_eq (cursor : Cursor) :
    cursor.lastLine = (cursor.consumed.head?.or cursor.tokens.head?).elim 1 Token.line := by
  unfold lastLine tokens
  cases cursor.consumed with
  | cons token rest => rfl
  | nil => cases cursor.ahead <;> rfl

theorem length_tokens (cursor : Cursor) :
    cursor.tokens.length = cursor.consumed.length + cursor.ahead.length := by
  simp [tokens]

theorem getElem_tokens_ahead (cursor : Cursor) (forth : Nat) :
    cursor.tokens[cursor.consumed.length + forth]? = cursor.ahead[forth]? := by
  simp [tokens, List.getElem?_append_right]

theorem getElem_tokens_behind {back : Nat} (within : back < cursor.consumed.length) :
    cursor.tokens[cursor.consumed.length - 1 - back]? = cursor.consumed[back]? := by
  have place : cursor.consumed.length - 1 - (cursor.consumed.length - 1 - back) = back := by omega
  rw [tokens, List.getElem?_append_left (by rw [List.length_reverse]; omega),
    List.getElem?_reverse (by omega), place]

def Coherent (cursor : Cursor) : Prop :=
  cursor.overrun = 0 ∨ cursor.ahead = []

namespace Coherent

theorem peek?_eq (coherent : cursor.Coherent) : cursor.peek? = cursor.tokens[cursor.index]? := by
  rcases coherent with inside | finished
  · exact (getElem_tokens inside).symm
  · rw [index, getElem_tokens_ahead, peek?, finished]
    rfl

theorem lookahead?_eq (coherent : cursor.Coherent) (offset : Int) :
    cursor.lookahead? offset =
      if 0 ≤ cursor.index + offset then cursor.tokens[(cursor.index + offset).toNat]?
      else none := by
  have here : cursor.index = cursor.consumed.length + cursor.overrun := rfl
  unfold lookahead?
  by_cases forth : 0 ≤ offset
  · have place : (cursor.index + offset).toNat =
        cursor.consumed.length + (cursor.overrun + offset.toNat) := by omega
    rw [if_pos forth, if_pos (by omega), place, getElem_tokens_ahead]
    rcases coherent with inside | finished
    · rw [inside, Nat.zero_add]
    · simp [finished]
  rw [if_neg forth]
  dsimp only
  by_cases beyond : (-offset).toNat ≤ cursor.overrun
  -- An offset that does not lead back to the end can only be given past the end.
  · have place : (cursor.index + offset).toNat =
        cursor.consumed.length + (cursor.overrun - (-offset).toNat) := by omega
    have finished : cursor.ahead = [] := coherent.resolve_left (by omega)
    rw [if_pos beyond, if_pos (by omega), place, getElem_tokens_ahead, finished,
      List.getElem?_nil]
  rw [if_neg beyond]
  by_cases within : (-offset).toNat - cursor.overrun - 1 < cursor.consumed.length
  · have place : (cursor.index + offset).toNat =
        cursor.consumed.length - 1 - ((-offset).toNat - cursor.overrun - 1) := by omega
    rw [if_pos (by omega), place, getElem_tokens_behind within]
  · rw [if_neg (by omega), List.getElem?_eq_none (by omega)]

theorem advance (coherent : cursor.Coherent) : cursor.advance.Coherent := by
  obtain ⟨consumed, ahead, overrun, file⟩ := cursor
  cases ahead with
  | nil => exact .inr rfl
  | cons token rest => exact .inl (coherent.resolve_right (List.cons_ne_nil token rest))

end Coherent

def stream (cursor : Cursor) : TokenStream :=
  ⟨cursor.tokens, cursor.index, cursor.lastLine, cursor.file⟩

theorem stream_start (tokens : List Token) (file : Option String) :
    (start tokens file).stream = TokenStream.start tokens file := by
  cases tokens <;> rfl

section Refinement

variable (coherent : cursor.Coherent)

include coherent

theorem peek?_stream : cursor.stream.peek? = cursor.peek? :=
  cursor.stream.peek?_eq.trans coherent.peek?_eq.symm

theorem hasNext_stream : cursor.stream.hasNext = cursor.hasNext := by
  have here : cursor.index = cursor.consumed.length + cursor.overrun := rfl
  have count : cursor.stream.tokens.length = cursor.consumed.length + cursor.ahead.length :=
    length_tokens cursor
  rw [TokenStream.hasNext, hasNext, count, show cursor.stream.index = cursor.index from rfl]
  rcases coherent with inside | finished
  · cases cursor.ahead <;> simp [here, inside]
  · simp [here, finished]

theorem lookahead?_stream (offset : Int) :
    cursor.stream.lookahead? offset = cursor.lookahead? offset :=
  (cursor.stream.lookahead?_eq offset).trans (coherent.lookahead?_eq offset).symm

theorem stream_advance : cursor.advance.stream = cursor.stream.advance := by
  rw [TokenStream.advance, peek?_stream coherent]
  obtain ⟨consumed, ahead, overrun, file⟩ := cursor
  cases ahead with
  | nil => cases consumed <;> rfl
  | cons token rest => simp [advance, stream, tokens, index, lastLine, peek?, Nat.add_right_comm]

end Refinement

open TokenStream (Operation)

def perform (cursor : Cursor) : Operation → TokenStream.Answer × Cursor
  | .peek => (.found cursor.peek?, cursor)
  | .take => (.found cursor.take.1, cursor.take.2)
  | .advance => (.silent, cursor.advance)
  | .hasNext => (.told cursor.hasNext, cursor)
  | .lookahead offset => (.found (cursor.lookahead? offset), cursor)
  | .accept kind payload =>
      (.told (cursor.accept kind payload).1, (cursor.accept kind payload).2)
  | .expect kind payload =>
      (.ofExcept (cursor.expect kind payload).1, (cursor.expect kind payload).2)
  | .fault cause => (.failed (cursor.fault cause), cursor)

/-- One operation is answered alike by a cursor and by its stream, and leaves them alike. -/
theorem perform_stream (coherent : cursor.Coherent) (operation : Operation) :
    cursor.stream.perform operation = Prod.map id stream (cursor.perform operation) ∧
      (cursor.perform operation).2.Coherent := by
  have peeked := peek?_stream coherent
  have moved := stream_advance coherent
  cases operation with
  | peek => exact ⟨by simp [perform, TokenStream.perform, peeked], coherent⟩
  | advance => exact ⟨by simp [perform, TokenStream.perform, moved], coherent.advance⟩
  | hasNext => exact ⟨by simp [perform, TokenStream.perform, hasNext_stream coherent], coherent⟩
  | lookahead offset =>
      exact ⟨by simp [perform, TokenStream.perform, lookahead?_stream coherent], coherent⟩
  | fault cause => exact ⟨rfl, coherent⟩
  | take =>
      dsimp only [perform, TokenStream.perform, take, TokenStream.take]
      rw [peeked, ← moved]
      cases cursor.peek? with
      | none => exact ⟨rfl, coherent⟩
      | some token => exact ⟨rfl, coherent.advance⟩
  | accept kind payload =>
      dsimp only [perform, TokenStream.perform, accept, TokenStream.accept]
      rw [peeked, ← moved]
      cases cursor.peek? with
      | none => exact ⟨rfl, coherent⟩
      | some token =>
          dsimp only
          split
          · exact ⟨rfl, coherent.advance⟩
          · exact ⟨rfl, coherent⟩
  | expect kind payload =>
      dsimp only [perform, TokenStream.perform, expect, TokenStream.expect, take, TokenStream.take]
      rw [peeked, ← moved]
      cases cursor.peek? with
      | none => exact ⟨rfl, coherent⟩
      | some token =>
          dsimp only
          split <;> exact ⟨rfl, coherent.advance⟩

/-- A cursor answers a whole run of operations as its stream does, and they end alike. -/
theorem performAll_stream (coherent : cursor.Coherent) (operations : List Operation) :
    Operation.performAll TokenStream.perform cursor.stream operations =
      Prod.map id stream (Operation.performAll perform cursor operations) := by
  induction operations generalizing cursor with
  | nil => rfl
  | cons operation operations ih =>
      obtain ⟨alike, still⟩ := perform_stream coherent operation
      rw [Operation.performAll, alike, Prod.map_fst, Prod.map_snd, ih still]
      rfl

end Cursor

namespace TokenStream

/-- After any operations, some of which may have failed or gone past the end, a stream has the
tokens it was started on, the line it has stored is that of the token before the place reached (at
the start that of the first token, and 1 where there is none), and it looks at the tokens around
its index. It never goes back. Only `advance` goes past the end. An `expect` on a token moves over
it also if it fails; an `accept` that fails changes nothing, and neither does a `take` or an
`expect` at the end. A cursor gives the same answers all along, and stands where the stream does. -/
theorem after_start_invariant (tokens : List Token) (file : Option String)
    (operations : List Operation) :
    let stream := (start tokens file).after operations
    stream.tokens = tokens ∧
    stream.lastLine = (tokens[min stream.index tokens.length - 1]?).elim 1 Token.line ∧
    stream.peek? = tokens[stream.index]? ∧
    (∀ offset, stream.lookahead? offset =
      if 0 ≤ stream.index + offset then tokens[(stream.index + offset).toNat]? else none) ∧
    (∀ more, stream.index ≤ (stream.after more).index) ∧
    (∀ operation, operation ≠ .advance →
      (stream.perform operation).2.index ≤ max stream.index tokens.length) ∧
    (stream.perform .advance).2.index = stream.index + 1 ∧
    (∀ kind payload fault, stream.index < tokens.length →
      (stream.perform (.expect kind payload)).1 = .failed fault →
      (stream.perform (.expect kind payload)).2.index = stream.index + 1) ∧
    (∀ kind payload, (stream.perform (.accept kind payload)).1 = .told false →
      (stream.perform (.accept kind payload)).2 = stream) ∧
    (tokens.length ≤ stream.index →
      stream.perform .take = (.found none, stream) ∧
      ∀ kind payload, ∃ fault,
        stream.perform (.expect kind payload) = (.failed fault, stream)) ∧
    Operation.performAll perform (start tokens file) operations =
      Prod.map id Cursor.stream
        (Operation.performAll Cursor.perform (.start tokens file) operations) := by
  intro stream
  have run : (start tokens file).Precedes stream := precedes_after _ operations
  have same : stream.tokens = tokens := run.sameTokens
  have placed : stream.Placed := run.placed (placed_start tokens file)
  have peeked : stream.peek? = tokens[stream.index]? := same ▸ stream.peek?_eq
  refine ⟨same, same ▸ placed, peeked, fun offset => same ▸ stream.lookahead?_eq offset,
    fun more => (precedes_after _ more).onward,
    fun operation other => same ▸ index_perform_le other, rfl,
    fun kind payload fault within _ => ?_, fun kind payload refused => ?_, fun beyond => ?_, ?_⟩
  · rw [List.getElem?_eq_getElem within] at peeked
    exact congrArg index (expect_of_peek kind payload peeked)
  · exact accept_of_refused (Answer.told.inj refused)
  · have finished : stream.peek? = none := peeked.trans (List.getElem?_eq_none beyond)
    refine ⟨?_, fun kind payload => ?_⟩
    · rw [perform, take_at_end finished]
    · rw [perform, expect_at_end kind payload finished]
      exact ⟨_, rfl⟩
  · rw [← Cursor.stream_start]
    exact Cursor.performAll_stream (.inl rfl) operations

/-- `a` on the first line and a semicolon on the third. -/
def sparse : List Token :=
  [⟨.identifier, some (.text "a"), 1⟩, ⟨.semicolon, none, 3⟩]

/-- Fails on the first token, moves over the second and goes two places past the end. -/
def straying : List Operation :=
  [.expect .comma none, .advance, .advance, .advance]

theorem after_straying_invariant :
    let begun := start sparse none
    let gone := begun.after straying
    (begun.perform (.expect .comma none)).1 =
      .failed ⟨.expected "," (some ⟨.identifier, some (.text "a"), 1⟩), some 1, none⟩ ∧
    (begun.perform (.expect .comma none)).2.index = 1 ∧
    (begun.perform (.accept .comma none)).1 = .told false ∧
    (begun.perform (.accept .comma none)).2 = begun ∧
    gone.index = 4 ∧ gone.lastLine = 3 ∧
    gone.lookahead? (-4) = some ⟨.identifier, some (.text "a"), 1⟩ ∧
    gone.perform .take = (.found none, gone) ∧
    (gone.perform (.accept .semicolon none)).2.index ≤ 4 ∧
    (Operation.performAll Cursor.perform (.start sparse none) straying).2.stream = gone := by
  intro begun gone
  obtain ⟨_, _, _, _, _, _, _, consumed, kept, _⟩ := after_start_invariant sparse none []
  obtain ⟨_, line, _, seen, _, bounded, _, _, _, ended, alike⟩ :=
    after_start_invariant sparse none straying
  exact ⟨rfl, consumed .comma none _ (by decide) rfl, rfl, kept .comma none rfl, rfl, line,
    seen (-4), (ended (by decide)).1, bounded (.accept .semicolon none) (by simp),
    (congrArg Prod.snd alike).symm⟩

end TokenStream

end Scriptlet
