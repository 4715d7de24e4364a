import Scriptlet.Proofs.Token.Source

/-!
String literals. Where a literal ends is decided by counting backslashes in pairs; what it says is
decided by replacing escapes, of which none stands for a backslash. So there are texts that no
literal denotes, and they are known: a text has a literal exactly if it has the one that writes a
backslash before each of its quotes.
-/

namespace Scriptlet.Token

def escaped (text : List Char) : List Char :=
  text.flatMap fun c => if c = '\"' then ['\\', '\"'] else [c]

def literal (text : String) : String :=
  String.ofList ('\"' :: (escaped text.toList ++ ['\"']))

/-- Whether no backslash stands right before one of the letters that make an escape with it. -/
def Plain (text : List Char) : Prop :=
  ∀ letter ∈ ['n', 'e', 't'], ¬ ['\\', letter] <:+: text

structure Expressible (text : List Char) : Prop where
  plain : Plain text
  quotes : ∀ before after, text = before ++ '\"' :: after → trailingBackslashes before % 2 = 0
  ending : trailingBackslashes text % 2 = 0

/-- Whether a source text is one literal, and its one token is the string with this text. The
quote that ends the literal is the last character. -/
structure Denotes (source text : String) : Prop where
  enclosed : ∃ body, source.toList = '\"' :: (body ++ ['\"']) ∧
    bodyLength? (body ++ ['\"']) = some body.length
  scanned : scan source = .ok [⟨.string, some (.text text), 1⟩]

def oddRun (text : List Char) : Bool :=
  trailingBackslashes text % 2 == 1

theorem oddRun_eq_false_iff {text : List Char} :
    oddRun text = false ↔ trailingBackslashes text % 2 = 0 := by
  simp [oddRun]

theorem oddRun_concat (text : List Char) (c : Char) :
    oddRun (text ++ [c]) = (c == '\\' && !oddRun text) := by
  by_cases backslash : c = '\\'
  · have more : trailingBackslashes (text ++ ['\\']) = trailingBackslashes text + 1 := by
      simp [trailingBackslashes]
    rcases Nat.mod_two_eq_zero_or_one (trailingBackslashes text) with even | odd
    · simp [backslash, oddRun, more, even, Nat.add_mod]
    · simp [backslash, oddRun, more, odd, Nat.add_mod]
  · have none : trailingBackslashes (text ++ [c]) = 0 := by
      simp [trailingBackslashes, backslash]
    simp [oddRun, none, backslash]

/-- Whether every quote comes after an odd run of backslashes if `wanted`, and after an even one
if not, and the end after an even one; `odd` tells of the run before the text. -/
def balanced (wanted : Bool) : (odd : Bool) → (text : List Char) → Bool
  | odd, [] => !odd
  | odd, c :: rest => (c != '\"' || odd == wanted) && balanced wanted (c == '\\' && !odd) rest

section Balanced

variable (wanted odd : Bool) (rest : List Char)

@[simp] theorem balanced_backslash :
    balanced wanted odd ('\\' :: rest) = balanced wanted (!odd) rest := by
  simp [balanced]

@[simp] theorem balanced_quote :
    balanced wanted odd ('\"' :: rest) = (odd == wanted && balanced wanted false rest) := by
  simp [balanced]

theorem balanced_plain {c : Char} (noBackslash : c ≠ '\\') (noQuote : c ≠ '\"') :
    balanced wanted odd (c :: rest) = balanced wanted false rest := by
  rw [balanced, bne_iff_ne.mpr noQuote, beq_eq_false_iff_ne.mpr noBackslash]
  rfl

end Balanced

theorem balanced_iff (wanted : Bool) (before text : List Char) :
    balanced wanted (oddRun before) text = true ↔
      (∀ inside after, text = inside ++ '\"' :: after → oddRun (before ++ inside) = wanted) ∧
        oddRun (before ++ text) = false := by
  induction text generalizing before with
  | nil => simp [balanced]
  | cons c rest ih =>
      have later := ih (before ++ [c])
      rw [oddRun_concat, List.append_assoc, List.singleton_append] at later
      rw [balanced, Bool.and_eq_true, later, ← and_assoc]
      refine and_congr_left fun _ => ?_
      constructor
      · rintro ⟨here, others⟩ inside after split
        cases inside with
        | nil =>
            cases split
            simpa using here
        | cons first inside =>
            cases split
            simpa using others inside after rfl
      · intro all
        refine ⟨?_, fun inside after split => ?_⟩
        · by_cases quote : c = '\"'
          · have here := all [] rest (by rw [quote]; rfl)
            rw [List.append_nil] at here
            simp [here]
          · simp [quote]
        · have there := all (c :: inside) after (by rw [split]; rfl)
          simpa using there

theorem closes_reverse (text : List Char) : Scanner.closes text.reverse = !oddRun text := by
  have same : Scanner.closes text.reverse = (trailingBackslashes text % 2 == 0) := rfl
  rw [same, oddRun, Bool.eq_iff_iff]
  simp

theorem find_closes_eq_some_iff (before body rest : List Char) :
    (List.range (body ++ '\"' :: rest).length).find?
        (Scanner.closesAfter before (body ++ '\"' :: rest)) = some body.length ↔
      balanced true (oddRun before) body = true := by
  induction body generalizing before with
  | nil =>
      rw [List.nil_append, Scanner.find_closes_cons, closes_reverse]
      cases odd : oddRun before <;> simp [balanced]
  | cons c body ih =>
      have later := ih (before ++ [c])
      rw [oddRun_concat] at later
      rw [List.cons_append, Scanner.find_closes_cons, closes_reverse]
      by_cases quote : c = '\"'
      · cases odd : oddRun before with
        | false => simp [quote, balanced]
        | true => simpa [quote, odd, balanced] using later
      · simpa [quote, balanced] using later

/-- A string body ends at the quote after it exactly if none of its own quotes ends it. -/
theorem bodyLength_eq_some_iff (body rest : List Char) :
    bodyLength? (body ++ '\"' :: rest) = some body.length ↔ balanced true false body = true :=
  find_closes_eq_some_iff [] body rest

section Escapes

variable {letter replacement : Char}

theorem pair_infix_cons (letter c : Char) (rest : List Char) :
    ['\\', letter] <:+: c :: rest ↔
      c = '\\' ∧ rest.head? = some letter ∨ ['\\', letter] <:+: rest := by
  rw [List.infix_cons_iff, List.cons_prefix_cons, eq_comm]
  cases rest with
  | nil => simp
  | cons next more =>
      rw [List.cons_prefix_cons, @eq_comm _ letter]
      simp

theorem replaceEscape_cons {c : Char} {rest : List Char}
    (unpaired : ¬ (c = '\\' ∧ rest.head? = some letter)) :
    replaceEscape letter replacement (c :: rest) =
      c :: replaceEscape letter replacement rest := by
  cases rest with
  | nil => simp [replaceEscape]
  | cons next more =>
      by_cases backslash : c = '\\'
      · have other : ¬ (next == letter) = true := by simpa [backslash] using unpaired
        rw [backslash, replaceEscape, if_neg other]
      · simp [replaceEscape, backslash]

theorem replaceEscape_of_absent {text : List Char} (absent : ¬ ['\\', letter] <:+: text) :
    replaceEscape letter replacement text = text := by
  induction text with
  | nil => rfl
  | cons c rest ih =>
      rw [pair_infix_cons, not_or] at absent
      rw [replaceEscape_cons absent.1, ih absent.2]

theorem head_replaceEscape (text : List Char) :
    (replaceEscape letter replacement text).head? = text.head? ∨
      (replaceEscape letter replacement text).head? = some replacement := by
  fun_cases replaceEscape letter replacement text with
  | case1 => exact .inl rfl
  | case2 => exact .inr rfl
  | case3 => exact .inl rfl
  | case4 => exact .inl rfl

/-- Replacing an escape removes it and brings up no other. -/
theorem infix_of_replaceEscape {other : Char} {text : List Char}
    (kept : replacement ≠ '\\') (different : replacement ≠ other)
    (found : ['\\', other] <:+: replaceEscape letter replacement text) :
    other ≠ letter ∧ ['\\', other] <:+: text := by
  fun_induction replaceEscape letter replacement text with
  | case1 => simp at found
  | case2 c rest same ih =>
      rw [pair_infix_cons] at found
      rcases found with ⟨here, _⟩ | later
      · exact absurd here kept
      · obtain ⟨unlike, inside⟩ := ih later
        exact ⟨unlike, inside.trans ⟨['\\', c], [], by simp⟩⟩
  | case3 c rest unequal ih =>
      rw [pair_infix_cons] at found ⊢
      rcases found with ⟨_, head⟩ | later
      · rcases head_replaceEscape (c :: rest) with first | first
        · rw [first] at head
          cases head
          exact ⟨by simpa using unequal, .inl ⟨rfl, rfl⟩⟩
        · rw [first] at head
          cases head
          exact absurd rfl different
      · exact ⟨(ih later).1, .inr (ih later).2⟩
  | case4 c rest single ih =>
      rw [pair_infix_cons] at found ⊢
      rcases found with ⟨backslash, head⟩ | later
      · cases rest with
        | nil => cases head
        | cons next more => exact absurd rfl (single next more backslash)
      · exact ⟨(ih later).1, .inr (ih later).2⟩

theorem balanced_replaceEscape {wanted : Bool} (odd : Bool) (text : List Char)
    (plainLetter : letter ≠ '\\' ∧ letter ≠ '\"')
    (plainReplacement : replacement ≠ '\\' ∧ replacement ≠ '\"') :
    balanced wanted odd (replaceEscape letter replacement text) = balanced wanted odd text := by
  fun_induction replaceEscape letter replacement text generalizing odd with
  | case1 => rfl
  | case2 c rest same ih =>
      rw [beq_iff_eq.mp same, balanced_plain _ _ _ plainReplacement.1 plainReplacement.2, ih,
        balanced_backslash, balanced_plain _ _ _ plainLetter.1 plainLetter.2]
  | case3 c rest other ih => rw [balanced_backslash, ih, balanced_backslash]
  | case4 c rest single ih => simp only [balanced, ih]

/-- Replacing the escapes of quotes takes one backslash from the run before each quote. -/
theorem balanced_replaceEscape_quote (odd : Bool) (text : List Char)
    (within : balanced true odd text = true) (opening : odd = true → text.head? ≠ some '\"') :
    balanced false odd (replaceEscape '\"' '\"' text) = true := by
  fun_induction replaceEscape '\"' '\"' text generalizing odd with
  | case1 => exact within
  | case2 c rest same ih =>
      rw [beq_iff_eq.mp same, balanced_backslash, balanced_quote, Bool.and_eq_true] at within
      rw [balanced_quote, Bool.and_eq_true]
      exact ⟨by simpa using within.1, ih false within.2 (by simp)⟩
  | case3 c rest other ih =>
      rw [balanced_backslash] at within ⊢
      exact ih (!odd) within fun _ => by simpa using other
  | case4 c rest single ih =>
      rw [balanced, Bool.and_eq_true] at within ⊢
      refine ⟨?_, ih _ within.2 fun run head => ?_⟩
      -- A quote after an odd run is taken together with a backslash, so none is left on its own.
      · have unquoted : c ≠ '\"' := by
          rintro rfl
          exact opening (by simpa using within.1) rfl
        simp [unquoted]
      · have backslash : c = '\\' := by
          simp only [Bool.and_eq_true, beq_iff_eq] at run
          exact run.1
        cases rest with
        | nil => cases head
        | cons next more => exact single next more backslash rfl

end Escapes

section Escaped

theorem escaped_cons (c : Char) (rest : List Char) :
    escaped (c :: rest) = if c = '\"' then '\\' :: '\"' :: escaped rest else c :: escaped rest := by
  by_cases quote : c = '\"' <;> simp [escaped, quote]

theorem head_escaped (text : List Char) :
    (escaped text).head? = some '\\' ∨
      (escaped text).head? = text.head? ∧ text.head? ≠ some '\"' := by
  cases text with
  | nil => exact .inr ⟨rfl, nofun⟩
  | cons c rest =>
      rw [escaped_cons]
      by_cases quote : c = '\"'
      · exact .inl (by simp [quote])
      · exact .inr (by simp [quote])

theorem balanced_escaped (odd : Bool) (text : List Char) :
    balanced true odd (escaped text) = balanced false odd text := by
  induction text generalizing odd with
  | nil => rfl
  | cons c rest ih =>
      rw [escaped_cons]
      by_cases quote : c = '\"'
      · rw [if_pos quote, quote, balanced_backslash, balanced_quote, balanced_quote, ih]
        cases odd <;> rfl
      · rw [if_neg quote, balanced, balanced, ih, bne_iff_ne.mpr quote, Bool.true_or, Bool.true_or]

theorem infix_of_escaped {letter : Char} {text : List Char} (plain : letter ≠ '\\' ∧ letter ≠ '\"')
    (found : ['\\', letter] <:+: escaped text) : ['\\', letter] <:+: text := by
  induction text with
  | nil => simp [escaped] at found
  | cons c rest ih =>
      rw [escaped_cons] at found
      rw [pair_infix_cons]
      by_cases quote : c = '\"'
      · rw [if_pos quote, pair_infix_cons, pair_infix_cons] at found
        rcases found with ⟨_, head⟩ | ⟨opens, _⟩ | later
        · exact absurd (Option.some.inj head).symm plain.2
        · exact absurd opens (by decide)
        · exact .inr (ih later)
      · rw [if_neg quote, pair_infix_cons] at found
        rcases found with ⟨backslash, head⟩ | later
        · rcases head_escaped rest with first | ⟨first, _⟩
          · rw [first] at head
            exact absurd (Option.some.inj head).symm plain.1
          · exact .inl ⟨backslash, first ▸ head⟩
        · exact .inr (ih later)

theorem replaceEscape_escaped (text : List Char) :
    replaceEscape '\"' '\"' (escaped text) = text := by
  induction text with
  | nil => rfl
  | cons c rest ih =>
      rw [escaped_cons]
      by_cases quote : c = '\"'
      · rw [if_pos quote, quote, replaceEscape, ih]
        rfl
      · have unpaired : ¬ (c = '\\' ∧ (escaped rest).head? = some '\"') := by
          rintro ⟨_, head⟩
          rcases head_escaped rest with first | ⟨first, unquoted⟩
          · rw [first] at head
            cases head
          · exact unquoted (first ▸ head)
        rw [if_neg quote, replaceEscape_cons unpaired, ih]

end Escaped

theorem infix_of_foldl {other : Char} (table : List (Char × Char)) (text : List Char)
    (safe : ∀ escape ∈ table, escape.2 ≠ '\\' ∧ escape.2 ≠ other)
    (found : ['\\', other] <:+:
      table.foldl (fun text escape => replaceEscape escape.1 escape.2 text) text) :
    (∀ escape ∈ table, other ≠ escape.1) ∧ ['\\', other] <:+: text := by
  induction table generalizing text with
  | nil => exact ⟨nofun, found⟩
  | cons escape table ih =>
      rw [List.forall_mem_cons] at safe
      obtain ⟨unlike, later⟩ := ih _ safe.2 found
      obtain ⟨different, inside⟩ := infix_of_replaceEscape safe.1.1 safe.1.2 later
      exact ⟨List.forall_mem_cons.mpr ⟨different, unlike⟩, inside⟩

theorem plain_unescape (body : List Char) : Plain (unescape body) := by
  intro letter member found
  have safe : ∀ letter ∈ ['n', 'e', 't'],
      (∀ escape ∈ escapes, escape.2 ≠ '\\' ∧ escape.2 ≠ letter) ∧
        ∃ escape ∈ escapes, letter = escape.1 := by
    simp [escapes]
  obtain ⟨harmless, escape, listed, same⟩ := safe letter member
  exact (infix_of_foldl escapes body harmless found).1 escape listed same

theorem balanced_unescape {body : List Char} (within : balanced true false body = true) :
    balanced false false (unescape body) = true := by
  refine balanced_replaceEscape_quote false _ ?_ nofun
  rw [balanced_replaceEscape, balanced_replaceEscape, balanced_replaceEscape]
  · exact within
  all_goals decide

theorem unescape_escaped {text : List Char} (plain : Plain text) :
    unescape (escaped text) = text := by
  have ordinary : ∀ letter ∈ ['n', 'e', 't'], letter ≠ '\\' ∧ letter ≠ '\"' := by
    simp
  have unchanged (letter replacement : Char) (member : letter ∈ ['n', 'e', 't']) :
      replaceEscape letter replacement (escaped text) = escaped text :=
    replaceEscape_of_absent fun found =>
      plain letter member (infix_of_escaped (ordinary letter member) found)
  simp only [unescape, escapes, List.foldl_cons, List.foldl_nil]
  rw [unchanged 'n' _ (by simp), unchanged 'e' _ (by simp), unchanged 't' _ (by simp),
    replaceEscape_escaped]

theorem expressible_iff {text : List Char} :
    Expressible text ↔ Plain text ∧ balanced false false text = true := by
  have parts := balanced_iff false [] text
  simp only [List.nil_append, oddRun_eq_false_iff] at parts
  constructor
  · intro expressible
    exact ⟨expressible.plain, parts.mpr ⟨expressible.quotes, expressible.ending⟩⟩
  · rintro ⟨plain, within⟩
    exact ⟨plain, (parts.mp within).1, (parts.mp within).2⟩

theorem read_string {body : List Char} (within : balanced true false body = true)
    (rest : List Char) :
    Lexeme.read '\"' (body ++ '\"' :: rest) =
      ⟨body.length + 1, fun line =>
        .ok (some ⟨.string, some (.text (String.ofList (unescape body))), line⟩)⟩ := by
  have quote : CharClass.ofChar '\"' = .quote := by decide +kernel
  rw [Lexeme.read, quote]
  dsimp only [Lexeme.string]
  rw [(bodyLength_eq_some_iff body rest).mpr within]
  simp only [List.take_left]

theorem scan_enclosed {source : String} {body : List Char}
    (opens : source.toList = '\"' :: (body ++ ['\"'])) (within : balanced true false body = true) :
    scan source = .ok [⟨.string, some (.text (String.ofList (unescape body))), 1⟩] := by
  have nothing : (body ++ ['\"']).drop (body.length + 1) = [] := by simp
  rw [Scanner.scan_eq_complete, Scanner.complete_start, opens, munch, read_string within]
  dsimp only
  rw [nothing, munch]
  rfl

/-- A text has a literal exactly if no backslash in it stands before one of the letters of the
escapes and its quotes and its end come after even runs of backslashes. Then it is enough to write
a backslash before each of its quotes. -/
theorem exists_denotes_iff (text : String) :
    ((∃ source, Denotes source text) ↔ Expressible text.toList) ∧
    (Expressible text.toList → Denotes (literal text) text) := by
  have written (expressible : Expressible text.toList) : Denotes (literal text) text := by
    obtain ⟨plain, within⟩ := expressible_iff.mp expressible
    rw [← balanced_escaped] at within
    have opens : (literal text).toList = '\"' :: (escaped text.toList ++ ['\"']) := by
      simp [literal]
    have scanned := scan_enclosed opens within
    rw [unescape_escaped plain, String.ofList_toList] at scanned
    exact ⟨⟨_, opens, (bodyLength_eq_some_iff _ _).mpr within⟩, scanned⟩
  refine ⟨⟨?_, fun expressible => ⟨_, written expressible⟩⟩, written⟩
  rintro ⟨source, ⟨body, opens, ends⟩, scanned⟩
  have within := (bodyLength_eq_some_iff body []).mp ends
  have same := (scan_enclosed opens within).symm.trans scanned
  simp only [Except.ok.injEq, List.cons.injEq, Token.mk.injEq, Option.some.injEq,
    Payload.text.injEq, true_and, and_true] at same
  rw [← same, String.toList_ofList, expressible_iff]
  exact ⟨plain_unescape body, balanced_unescape within⟩

example : ¬ Expressible ['\\'] := fun expressible => absurd expressible.ending (by decide)

end Scriptlet.Token
