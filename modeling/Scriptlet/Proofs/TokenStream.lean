import Scriptlet.TokenStream

/-!
What becomes of a stream. Whatever is asked of it, in any order and also after a fault or past the
end, it keeps its tokens, never goes back, and has stored the line of the last token it moved over.
-/

namespace Scriptlet.TokenStream

variable {stream : TokenStream}

theorem peek?_eq (stream : TokenStream) : stream.peek? = stream.tokens[stream.index]? := by
  unfold peek? hasNext
  by_cases within : stream.index < stream.tokens.length <;> simp [within]

theorem lookahead?_eq (stream : TokenStream) (offset : Int) :
    stream.lookahead? offset =
      if 0 ≤ stream.index + offset then stream.tokens[(stream.index + offset).toNat]?
      else none := by
  dsimp only [lookahead?]
  by_cases beyond : stream.tokens.length ≤ (stream.index + offset).toNat
  · rw [if_neg (by omega), List.getElem?_eq_none beyond, ite_self]
  · simp only [show stream.index + offset < stream.tokens.length by omega, and_true]

/-- Whether the line reached is that of the token before the index, or of the last token where the
index is past the end; before the first move it is the line of the first token, if there is one. -/
def Placed (stream : TokenStream) : Prop :=
  stream.lastLine =
    (stream.tokens[min stream.index stream.tokens.length - 1]?).elim 1 Token.line

theorem placed_start (tokens : List Token) (file : Option String) : (start tokens file).Placed := by
  simp [Placed, start, List.head?_eq_getElem?]

theorem placed_advance (placed : stream.Placed) : stream.advance.Placed := by
  unfold Placed at placed ⊢
  dsimp only [advance]
  rw [peek?_eq]
  by_cases within : stream.index < stream.tokens.length
  · have here : min (stream.index + 1) stream.tokens.length - 1 = stream.index := by omega
    rw [here, List.getElem?_eq_getElem within]
    rfl
  · have beyond : min (stream.index + 1) stream.tokens.length - 1 =
        min stream.index stream.tokens.length - 1 := by omega
    rw [beyond, List.getElem?_eq_none (Nat.le_of_not_lt within)]
    exact placed

section Effects

variable (kind : Token.Kind) (payload : Option Token.Payload) {token : Token}

theorem take_of_peek (present : stream.peek? = some token) :
    stream.take = (some token, stream.advance) := by
  rw [take, present]

theorem take_at_end (finished : stream.peek? = none) : stream.take = (none, stream) := by
  rw [take, finished]

theorem accept_of_peek (present : stream.peek? = some token) :
    stream.accept kind payload =
      if token.fits kind payload then (true, stream.advance) else (false, stream) := by
  rw [accept, present]

theorem accept_at_end (finished : stream.peek? = none) :
    stream.accept kind payload = (false, stream) := by
  rw [accept, finished]

theorem accept_of_refused {kind : Token.Kind} {payload : Option Token.Payload}
    (refused : (stream.accept kind payload).1 = false) :
    (stream.accept kind payload).2 = stream := by
  cases peeked : stream.peek? with
  | none => rw [accept_at_end kind payload peeked]
  | some token =>
      rw [accept_of_peek kind payload peeked] at refused ⊢
      cases fits : token.fits kind payload with
      | false => rfl
      | true =>
          rw [fits] at refused
          cases refused

/-- A token is consumed whether or not it fits. -/
theorem expect_of_peek (present : stream.peek? = some token) :
    (stream.expect kind payload).2 = stream.advance := by
  rw [expect, take_of_peek present]
  dsimp only
  split <;> rfl

theorem expect_at_end (finished : stream.peek? = none) :
    stream.expect kind payload =
      (.error (stream.fault
        (.expected ((payload.map Token.Payload.shown).getD kind.shown) none)), stream) := by
  rw [expect, take_at_end finished]

end Effects

inductive Operation where
  | peek
  | take
  | advance
  | hasNext
  | lookahead (offset : Int)
  | accept (kind : Token.Kind) (payload : Option Token.Payload)
  | expect (kind : Token.Kind) (payload : Option Token.Payload)
  | fault (cause : Cause)

inductive Answer where
  | found (token : Option Token)
  | told (holds : Bool)
  | silent
  | failed (fault : Fault)

def Answer.ofExcept : Except Fault Token → Answer
  | .ok token => found (some token)
  | .error fault => failed fault

def Operation.performAll {σ : Type} (perform : σ → Operation → Answer × σ) (state : σ) :
    List Operation → List Answer × σ
  | [] => ([], state)
  | operation :: operations =>
      let first := perform state operation
      let others := performAll perform first.2 operations
      (first.1 :: others.1, others.2)

def perform (stream : TokenStream) : Operation → Answer × TokenStream
  | .peek => (.found stream.peek?, stream)
  | .take => (.found stream.take.1, stream.take.2)
  | .advance => (.silent, stream.advance)
  | .hasNext => (.told stream.hasNext, stream)
  | .lookahead offset => (.found (stream.lookahead? offset), stream)
  | .accept kind payload =>
      (.told (stream.accept kind payload).1, (stream.accept kind payload).2)
  | .expect kind payload =>
      (.ofExcept (stream.expect kind payload).1, (stream.expect kind payload).2)
  | .fault cause => (.failed (stream.fault cause), stream)

def Operation.moves (stream : TokenStream) : Operation → Bool
  | advance => true
  | take | expect .. => stream.peek?.isSome
  | accept kind payload => stream.peek?.any fun token => token.fits kind payload
  | peek | hasNext | lookahead _ | fault _ => false

theorem perform_snd (stream : TokenStream) (operation : Operation) :
    (stream.perform operation).2 = if operation.moves stream then stream.advance else stream := by
  cases operation with
  | peek | advance | hasNext | lookahead offset | fault cause => rfl
  | take =>
      cases peeked : stream.peek? with
      | none => simp [perform, Operation.moves, take_at_end peeked, peeked]
      | some token => simp [perform, Operation.moves, take_of_peek peeked, peeked]
  | accept kind payload =>
      cases peeked : stream.peek? with
      | none => simp [perform, Operation.moves, accept_at_end kind payload peeked, peeked]
      | some token =>
          simp [perform, Operation.moves, accept_of_peek kind payload peeked, peeked,
            apply_ite Prod.snd]
  | expect kind payload =>
      cases peeked : stream.peek? with
      | none => simp [perform, Operation.moves, expect_at_end kind payload peeked, peeked]
      | some token => simp [perform, Operation.moves, expect_of_peek kind payload peeked, peeked]

structure Precedes (stream later : TokenStream) : Prop where
  sameTokens : later.tokens = stream.tokens
  onward : stream.index ≤ later.index
  placed : stream.Placed → later.Placed

theorem Precedes.refl (stream : TokenStream) : stream.Precedes stream :=
  ⟨rfl, Nat.le_refl _, id⟩

theorem Precedes.trans {first second third : TokenStream} (head : first.Precedes second)
    (tail : second.Precedes third) : first.Precedes third :=
  ⟨tail.sameTokens.trans head.sameTokens, Nat.le_trans head.onward tail.onward,
    fun placed => tail.placed (head.placed placed)⟩

theorem precedes_perform (stream : TokenStream) (operation : Operation) :
    stream.Precedes (stream.perform operation).2 := by
  rw [perform_snd]
  split
  · exact ⟨rfl, Nat.le_succ _, placed_advance⟩
  · exact .refl stream

/-- Every operation but `advance` moves a stream only over a token that is there. -/
theorem peek_of_moves {operation : Operation} (moving : operation.moves stream = true)
    (other : operation ≠ .advance) : ∃ token, stream.peek? = some token := by
  cases operation with
  | advance => exact absurd rfl other
  | take | expect kind payload => exact Option.isSome_iff_exists.mp moving
  | accept kind payload =>
      obtain ⟨token, present, _⟩ := (Option.any_eq_true _ _).mp moving
      exact ⟨token, present⟩
  | peek | hasNext | lookahead offset | fault cause => cases moving

theorem index_perform_le {operation : Operation} (other : operation ≠ .advance) :
    (stream.perform operation).2.index ≤ max stream.index stream.tokens.length := by
  rw [perform_snd]
  split
  · next moving =>
      obtain ⟨token, present⟩ := peek_of_moves moving other
      rw [peek?_eq] at present
      obtain ⟨within, _⟩ := List.getElem?_eq_some_iff.mp present
      exact Nat.le_trans (Nat.succ_le_of_lt within) (Nat.le_max_right _ _)
  · exact Nat.le_max_left _ _

def after (stream : TokenStream) (operations : List Operation) : TokenStream :=
  (Operation.performAll perform stream operations).2

theorem precedes_after (stream : TokenStream) (operations : List Operation) :
    stream.Precedes (stream.after operations) := by
  induction operations generalizing stream with
  | nil => exact .refl stream
  | cons operation operations ih => exact (stream.precedes_perform operation).trans (ih _)

end Scriptlet.TokenStream
