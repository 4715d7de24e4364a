import Scriptlet.Proofs.Number.Digits
import Scriptlet.Proofs.Token.Seam

/-!
Lexing text that is put together piece by piece. A piece on one line gives its own tokens wherever
it stands, provided that the character after it does not go on its last lexeme.
-/

namespace Scriptlet.Token

/-- Before `rest`, and on the first line, the characters give these tokens and nothing else. -/
def Written (chars : List Char) (tokens : List Token) (rest : List Char) : Prop :=
  '\n' ∉ chars ∧ ∀ before, '\n' ∉ before →
    munch before (chars ++ rest) =
      munch (before ++ chars) rest >>= fun others => .ok (tokens ++ others)

variable {first : Char} {others rest : List Char}

theorem written_nil : Written [] [] rest := by
  refine ⟨List.not_mem_nil, fun before _ => ?_⟩
  rw [List.append_nil]
  exact (bind_pure _).symm

theorem Written.append {chars more : List Char} {tokens further : List Token}
    (head : Written chars tokens (more ++ rest)) (tail : Written more further rest) :
    Written (chars ++ more) (tokens ++ further) rest := by
  obtain ⟨headLine, headMunch⟩ := head
  obtain ⟨tailLine, tailMunch⟩ := tail
  refine ⟨by simp [headLine, tailLine], fun before line => ?_⟩
  rw [List.append_assoc, headMunch before line, tailMunch _ (by simp [line, headLine]),
    List.append_assoc, bind_assoc]
  refine bind_congr fun others => ?_
  rw [List.append_assoc]
  rfl

theorem written_lexeme {lexeme : Lexeme} {found : Option Token}
    (oneLine : '\n' ∉ first :: others)
    (read : Lexeme.read first (others ++ rest) = lexeme) (size : lexeme.more = others.length)
    (made : lexeme.outcome 1 = .ok found) : Written (first :: others) found.toList rest := by
  refine ⟨oneLine, fun before line => ?_⟩
  have firstLine : lineFollowing before = 1 := by
    rw [lineFollowing, List.count_eq_zero.mpr line]
  rw [munch_lexeme read size, firstLine, made]
  rfl

theorem written_space : Written [' '] [] rest := by
  have blank : CharClass.ofChar ' ' = .blank := by decide +kernel
  have oneLine : '\n' ∉ [' '] := by decide
  have read : Lexeme.read ' ' rest = ⟨0, fun _ => .ok none⟩ := by
    rw [Lexeme.read, blank]
  exact written_lexeme oneLine read rfl rfl

theorem written_bracket {kind : Kind} (bracket : CharClass.ofChar first = .bracket kind) :
    Written [first] [⟨kind, none, 1⟩] rest := by
  have oneLine : '\n' ∉ [first] := by
    intro member
    rw [← List.mem_singleton.mp member, Scanner.ofChar_newline] at bracket
    cases bracket
  have read : Lexeme.read first rest = ⟨0, fun line => .ok (some ⟨kind, none, line⟩)⟩ := by
    rw [Lexeme.read, bracket]
  exact written_lexeme oneLine read rfl rfl

section Runs

variable {group : CharClass} (inClass : ∀ c ∈ first :: others, CharClass.ofChar c = group)
  (ends : ∀ c, rest.head? = some c → CharClass.ofChar c ≠ group)

include inClass ends

theorem takeWhile_run :
    (others ++ rest).takeWhile (CharClass.ofChar · == group) = others := by
  have stops : rest.takeWhile (CharClass.ofChar · == group) = [] := by
    cases rest with
    | nil => rfl
    | cons c rest => simp [ends c rfl]
  rw [List.takeWhile_append_of_pos, stops, List.append_nil]
  intro c member
  simp [inClass c (List.mem_cons_of_mem _ member)]

theorem read_run (gathers : Scanner.Gathers group)
    (single : group = .symbol → commentStart? (first :: others) = none) :
    Lexeme.read first (others ++ rest) = ⟨others.length, ofRun group (first :: others)⟩ := by
  have run := takeWhile_run inClass ends
  have firstClass := inClass first (by simp)
  rw [Lexeme.read, firstClass]
  rcases gathers with rfl | rfl | rfl
  · simp only [Lexeme.run, run]
  · simp only [Lexeme.run, run]
  · have whole : (first :: (others ++ rest)).takeWhile (CharClass.ofChar · == .symbol) =
        first :: others := by
      simp [firstClass, run]
    simp only [Lexeme.symbols, whole, single rfl]
    rfl

theorem written_run {token : Token} (gathers : Scanner.Gathers group)
    (single : group = .symbol → commentStart? (first :: others) = none)
    (made : ofRun group (first :: others) 1 = .ok (some token)) :
    Written (first :: others) [token] rest := by
  have oneLine : '\n' ∉ first :: others := by
    intro member
    have blank := inClass '\n' member
    rw [Scanner.ofChar_newline] at blank
    rw [← blank] at gathers
    rcases gathers with other | other | other <;> cases other
  exact written_lexeme oneLine (read_run inClass ends gathers single) rfl made

end Runs

theorem written_symbol {c : Char} {token : Token} (symbol : CharClass.ofChar c = .symbol)
    (made : ofRun .symbol [c] 1 = .ok (some token))
    (ends : ∀ next, rest.head? = some next → CharClass.ofChar next ≠ .symbol) :
    Written [c] [token] rest := by
  have inClass : ∀ other ∈ [c], CharClass.ofChar other = .symbol := by
    intro other member
    rw [List.mem_singleton.mp member]
    exact symbol
  have noComment : commentStart? [c] = none := by
    simp [commentStart?, List.range_succ]
  exact written_run inClass ends (.inr (.inr rfl)) (fun _ => noComment) made

theorem ofChar_of_digit {c : Char} (digit : c.isDigit = true) : CharClass.ofChar c = .numeric := by
  have all : ∀ d < 10, CharClass.ofChar (Nat.digitChar d) = .numeric := by
    decide +kernel
  obtain ⟨d, small, rfl⟩ := Number.Numeral.exists_digitChar digit
  exact all d small

theorem ofChar_of_mem_toDigits {n : Nat} {c : Char} (member : c ∈ Nat.toDigits 10 n) :
    CharClass.ofChar c = .numeric :=
  ofChar_of_digit (Nat.isDigit_of_mem_toDigits (by decide) (by decide) member)

theorem head_toDigits (n : Nat) {c : Char}
    (head : (Nat.toDigits 10 n ++ rest).head? = some c) : CharClass.ofChar c = .numeric := by
  have member : c ∈ Nat.toDigits 10 n := by
    cases digits : Nat.toDigits 10 n with
    | nil => exact absurd digits Nat.toDigits_ne_nil
    | cons first others =>
        rw [digits] at head
        cases head
        exact List.mem_cons_self
  exact ofChar_of_mem_toDigits member

theorem ofRun_toDigits {n : Nat} (small : (n : Int) ≤ integerMax) (line : Nat) :
    ofRun .numeric (Nat.toDigits 10 n) line = .ok (some ⟨.integer, some (.integer n), line⟩) := by
  have greatest : integerMax = 18446744073709551615 := rfl
  have bound : n < Nat.pow 10 20 := by
    have power : Nat.pow 10 20 = 100000000000000000000 := rfl
    omega
  simp only [ofRun, ofNumeral?, Number.Numeral.integer_toDigits bound, small, if_true]

theorem written_natural {n : Nat} (small : (n : Int) ≤ integerMax)
    (ends : ∀ c, rest.head? = some c → CharClass.ofChar c ≠ .numeric) :
    Written (Nat.toDigits 10 n) [⟨.integer, some (.integer n), 1⟩] rest := by
  have made := ofRun_toDigits small 1
  have digits : ∀ c ∈ Nat.toDigits 10 n, CharClass.ofChar c = .numeric :=
    fun _ => ofChar_of_mem_toDigits
  cases text : Nat.toDigits 10 n with
  | nil => exact absurd text Nat.toDigits_ne_nil
  | cons first others =>
      rw [text] at made digits
      exact written_run digits ends (.inr (.inl rfl)) nofun made

/-- A scan of text that is written on one line. -/
theorem scan_of_written {source : String} {tokens : List Token}
    (written : Written source.toList tokens []) : scan source = .ok tokens := by
  have munched := written.2 [] List.not_mem_nil
  rw [List.append_nil] at munched
  rw [Scanner.scan_eq_complete, Scanner.complete_start, munched, munch]
  exact congrArg Except.ok (List.append_nil tokens)

end Scriptlet.Token
