import Mathlib.Data.List.Pairwise
import Scriptlet.Proofs.Token.Literal

/-!
Escapes in one pass. The escapes of a string body are replaced one kind after the other, each in
the text that the kinds before it have left. This comes to reading the body once from the left: a
replacement is never a backslash, and never a character that another kind looks for after one, so
no kind makes or breaks an escape of another. For the same reason the kinds may be replaced in any
order.
-/

namespace Scriptlet.Token

def meaning? : Char → Option Char
  | 'n' => some '\n'
  | 'e' => some '\x1b'
  | 't' => some '\t'
  | '\"' => some '\"'
  | _ => none

/-- Reads a text once from the left. A backslash before a character with a meaning is replaced
together with it, and reading goes on after the pair; everything else is copied. -/
def decode (meaning : Char → Option Char) : List Char → List Char
  | [] => []
  | '\\' :: c :: rest =>
      match meaning c with
      | some replacement => replacement :: decode meaning rest
      | none => '\\' :: decode meaning (c :: rest)
  | c :: rest => c :: decode meaning rest

def only (letter replacement c : Char) : Option Char :=
  if c = letter then some replacement else none

def Apart (escape other : Char × Char) : Prop :=
  escape.1 ≠ other.1 ∧ escape.2 ≠ other.1 ∧ other.2 ≠ escape.1

structure Independent (table : List (Char × Char)) : Prop where
  bare : ∀ escape ∈ table, escape.1 ≠ '\\' ∧ escape.2 ≠ '\\'
  apart : table.Pairwise Apart

section Decode

variable {meaning : Char → Option Char} {c replacement : Char} {rest : List Char}

theorem decode_pair (known : meaning c = some replacement) :
    decode meaning ('\\' :: c :: rest) = replacement :: decode meaning rest := by
  rw [decode, known]

theorem decode_lone (unknown : ∀ c ∈ rest.head?, meaning c = none) :
    decode meaning ('\\' :: rest) = '\\' :: decode meaning rest := by
  cases rest with
  | nil => rfl
  | cons c more => rw [decode, unknown c rfl]

theorem decode_single (single : ∀ next more, c = '\\' → rest = next :: more → False) :
    decode meaning (c :: rest) = c :: decode meaning rest := by
  rw [decode]
  exact single

theorem decode_copied (noBackslash : c ≠ '\\') :
    decode meaning (c :: rest) = c :: decode meaning rest :=
  decode_single fun _ _ backslash _ => noBackslash backslash

theorem head_decode (meaning : Char → Option Char) (text : List Char) :
    (decode meaning text).head? = text.head? ∨
      ∃ c replacement, meaning c = some replacement ∧
        (decode meaning text).head? = some replacement := by
  fun_cases decode meaning text with
  | case1 => exact .inl rfl
  | case2 c rest replacement known => exact .inr ⟨c, replacement, known, rfl⟩
  | case3 => exact .inl rfl
  | case4 => exact .inl rfl

theorem decode_none (text : List Char) : decode (fun _ => none) text = text := by
  fun_induction decode (fun _ => none) text with
  | case1 => rfl
  | case2 c rest replacement known => cases known
  | case3 c rest unknown ih => rw [ih]
  | case4 c rest single ih => rw [ih]

end Decode

section TwoPasses

variable {first later : Char → Option Char} (bare : later '\\' = none)
  (harmless : ∀ c replacement, first c = some replacement →
    replacement ≠ '\\' ∧ later replacement = none)

include bare harmless

/-- Behind the first of two backslashes a pass leaves the second, or what has replaced it. -/
theorem unknown_of_head_decode (rest : List Char) :
    ∀ c ∈ (decode first ('\\' :: rest)).head?, later c = none := by
  intro c head
  rcases head_decode first ('\\' :: rest) with same | ⟨_, replacement, known, put⟩
  · rw [same] at head
    cases head
    exact bare
  · rw [put] at head
    cases head
    exact (harmless _ _ known).2

/-- Two passes are one pass with the meanings of both, if the second has no meaning for a backslash
or for anything the first puts in. -/
theorem decode_decode (text : List Char) :
    decode later (decode first text) = decode (fun c => (first c).or (later c)) text := by
  fun_induction decode first text with
  | case1 => rfl
  | case2 c rest replacement known ih =>
      have either : (first c).or (later c) = some replacement := by rw [known, Option.some_or]
      rw [decode_pair either, decode_copied (harmless c replacement known).1, ih]
  | case3 c rest unknown ih =>
      have either : (first c).or (later c) = later c := by rw [unknown, Option.none_or]
      by_cases backslash : c = '\\'
      · subst backslash
        rw [decode_lone (unknown_of_head_decode bare harmless rest), ih]
        exact (decode_lone (by simpa using either.trans bare)).symm
      · rw [decode_copied backslash] at ih ⊢
        cases known : later c with
        | some replacement =>
            -- Both passes copy `c`, so the hypothesis on `c` and the rest is one on the rest.
            rw [decode_copied backslash, decode_copied backslash] at ih
            rw [decode_pair known, decode_pair (either.trans known), (List.cons.inj ih).2]
        | none =>
            rw [decode_lone (by simpa using known), ih,
              decode_lone (by simpa using either.trans known)]
  | case4 c rest single ih =>
      rw [decode_single single]
      cases rest with
      | nil => exact decode_single (by simp [decode])
      | cons next more => rw [decode_copied fun backslash => single next more backslash rfl, ih]

end TwoPasses

theorem replaceEscape_eq_decode (letter replacement : Char) (text : List Char) :
    replaceEscape letter replacement text = decode (only letter replacement) text := by
  fun_induction replaceEscape letter replacement text with
  | case1 => rfl
  | case2 c rest same ih => rw [decode_pair (if_pos (beq_iff_eq.mp same)), ih]
  | case3 c rest other ih =>
      have unlike : only letter replacement c = none := if_neg (by simpa using other)
      rw [decode_lone (by simpa using unlike), ih]
  | case4 c rest single ih => rw [decode_single single, ih]

/-- Replacing an escape before a pass is the same as replacing it in that pass. -/
theorem decode_replaceEscape {later : Char → Option Char} {escape : Char × Char}
    (text : List Char) (bare : later '\\' = none) (noBackslash : escape.2 ≠ '\\')
    (unknown : later escape.2 = none) :
    decode later (replaceEscape escape.1 escape.2 text) =
      decode (fun c => (only escape.1 escape.2 c).or (later c)) text := by
  rw [replaceEscape_eq_decode]
  refine decode_decode bare (fun c replacement known => ?_) text
  obtain ⟨_, rfl⟩ : c = escape.1 ∧ escape.2 = replacement := by simpa [only] using known
  exact ⟨noBackslash, unknown⟩

theorem lookup_cons_eq_or (escape : Char × Char) (table : List (Char × Char)) (c : Char) :
    (escape :: table).lookup c = (only escape.1 escape.2 c).or (table.lookup c) := by
  obtain ⟨letter, replacement⟩ := escape
  by_cases same : c = letter
  · simp [only, same]
  · simp [only, List.lookup_cons, beq_eq_false_iff_ne.mpr same, same]

/-- The passes for the escapes of a table are one pass with the meanings the table gives. -/
theorem foldl_replaceEscape {table : List (Char × Char)} (independent : Independent table)
    (text : List Char) :
    table.foldl (fun text escape => replaceEscape escape.1 escape.2 text) text =
      decode (fun c => table.lookup c) text := by
  obtain ⟨bare, apart⟩ := independent
  induction table generalizing text with
  | nil => exact (decode_none text).symm
  | cons escape table ih =>
      rw [List.forall_mem_cons] at bare
      rw [List.pairwise_cons] at apart
      have unescaped : table.lookup '\\' = none :=
        List.lookup_eq_none_iff.mpr fun other listed => bne_iff_ne.mpr (bare.2 other listed).1.symm
      have unlisted : table.lookup escape.2 = none :=
        List.lookup_eq_none_iff.mpr fun other listed => bne_iff_ne.mpr (apart.1 other listed).2.1
      rw [List.foldl_cons, ih _ bare.2 apart.2,
        decode_replaceEscape text unescaped bare.1.2 unlisted]
      simp only [lookup_cons_eq_or]

theorem replaceEscape_comm {escape other : Char × Char} (text : List Char)
    (bare : escape.1 ≠ '\\' ∧ escape.2 ≠ '\\') (bareOther : other.1 ≠ '\\' ∧ other.2 ≠ '\\')
    (apart : Apart escape other) :
    replaceEscape other.1 other.2 (replaceEscape escape.1 escape.2 text) =
      replaceEscape escape.1 escape.2 (replaceEscape other.1 other.2 text) := by
  obtain ⟨letters, forth, back⟩ := apart
  have either (c : Char) : (only escape.1 escape.2 c).or (only other.1 other.2 c) =
      (only other.1 other.2 c).or (only escape.1 escape.2 c) := by
    by_cases same : c = escape.1
    · simp [only, same, letters]
    · simp [only, same]
  rw [replaceEscape_eq_decode other.1, replaceEscape_eq_decode escape.1 _ (replaceEscape _ _ _),
    decode_replaceEscape text (if_neg bareOther.1.symm) bare.2 (if_neg forth),
    decode_replaceEscape text (if_neg bare.1.symm) bareOther.2 (if_neg back)]
  simp only [either]

instance : Std.Symm Apart where
  symm _ _ apart := ⟨apart.1.symm, apart.2.2, apart.2.1⟩

theorem foldl_replaceEscape_perm {table other : List (Char × Char)}
    (independent : Independent table) (same : other.Perm table) (text : List Char) :
    other.foldl (fun text escape => replaceEscape escape.1 escape.2 text) text =
      table.foldl (fun text escape => replaceEscape escape.1 escape.2 text) text := by
  refine (same.symm.foldl_eq' (fun first listed second listedToo text => ?_) text).symm
  by_cases equal : first = second
  · rw [equal]
  · exact replaceEscape_comm text (independent.bare first listed)
      (independent.bare second listedToo) (independent.apart.forall listed listedToo equal)

theorem independent_escapes : Independent escapes :=
  ⟨by simp [escapes], by simp [escapes, Apart]⟩

theorem lookup_escapes (c : Char) : escapes.lookup c = meaning? c := by
  fun_cases meaning? c with
  | case1 | case2 | case3 | case4 => rfl
  | case5 c newline escape tab quote =>
      have unlisted : ∀ entry ∈ escapes, c ≠ entry.1 := by
        simpa [escapes] using ⟨newline, escape, tab, quote⟩
      exact List.lookup_eq_none_iff.mpr fun entry listed => bne_iff_ne.mpr (unlisted entry listed)

/-- The text of a string body, whose escapes are replaced kind by kind, is the one that a single
pass from the left gives, and it is the same for every order of the kinds. -/
theorem unescape_eq_decode (body : List Char) :
    unescape body = decode meaning? body ∧
    ∀ table : List (Char × Char), table.Perm escapes →
      table.foldl (fun text escape => replaceEscape escape.1 escape.2 text) body =
        unescape body := by
  refine ⟨?_, fun table same => foldl_replaceEscape_perm independent_escapes same body⟩
  rw [unescape, foldl_replaceEscape independent_escapes]
  simp only [lookup_escapes]

/-- A body with two backslashes before a quote, two before a letter and one at the end. -/
def slashed : List Char :=
  ['\\', '\\', '\"', 'n', '\\', '\\', 'n', '\\', 'x', '\\']

theorem unescape_slashed_in_reverse :
    escapes.reverse.Perm escapes ∧
    escapes.reverse.foldl (fun text escape => replaceEscape escape.1 escape.2 text) slashed =
      ['\\', '\"', 'n', '\\', '\n', '\\', 'x', '\\'] := by
  obtain ⟨once, anyOrder⟩ := unescape_eq_decode slashed
  have reversed : escapes.reverse.Perm escapes := List.reverse_perm escapes
  exact ⟨reversed, (anyOrder _ reversed).trans (once.trans rfl)⟩

end Scriptlet.Token
