import Scriptlet.Proofs.Token.CharClass
import Scriptlet.Proofs.Token.Literal
import Scriptlet.Proofs.Token.Writing

/-!
Tokens written out. A token that has a spelling is read back from it, wherever it stands, if white
space or the end of the text follows; between tokens there may be white space and whole comments.
So scanning undoes writing, and finds each token on the line where it was written.
-/

namespace Scriptlet.Token

def spelling (token : Token) : String :=
  match token.kind.spelling?, token.payload with
  | some text, _ => text
  | none, some payload =>
      if token.kind = .string then literal payload.shown else payload.shown
  | none, none => ""

/-- Whether a token can be written: the tokens of source text can, but floats, and strings that no
literal denotes. -/
structure Spellable (token : Token) : Prop where
  lexical : token.Lexical
  exact : token.kind ≠ .float
  expressible : ∀ text, token.kind = .string → token.payload = some (.text text) →
    Expressible text.toList

/-- White space, and comments with the newlines that end them. -/
inductive Filler : List Char → Prop
  | nil : Filler []
  | blank {c : Char} {rest : List Char} :
      Text.isBlank c = true → Filler rest → Filler (c :: rest)
  | comment {text rest : List Char} :
      '\n' ∉ text → Filler rest → Filler ('/' :: '/' :: (text ++ '\n' :: rest))

inductive Separator : List Char → Prop
  | mk {c : Char} {rest : List Char} :
      Text.isBlank c = true → Filler rest → Separator (c :: rest)

structure Entry where
  token : Token
  gap : List Char

def Entry.chars (entry : Entry) : List Char :=
  entry.token.spelling.toList ++ entry.gap

def written (entries : List Entry) : List Char :=
  entries.flatMap Entry.chars

/-- Before `rest`, these characters are one lexeme and make this token, on the line they are on. -/
def Spells (chars : List Char) (token : Token) (rest : List Char) : Prop :=
  ∃ first others, chars = first :: others ∧
    Lexeme.read first (others ++ rest) =
      ⟨others.length, fun line => .ok (some ⟨token.kind, token.payload, line⟩)⟩

theorem Spells.munch_eq {chars rest : List Char} {token : Token}
    (spells : Spells chars token rest) (before : List Char) :
    munch before (chars ++ rest) = munch (before ++ chars) rest >>= fun tokens =>
      .ok (⟨token.kind, token.payload, lineFollowing before⟩ :: tokens) := by
  obtain ⟨first, others, rfl, read⟩ := spells
  rw [munch_lexeme read rfl]
  rfl

def symbolTexts : List String :=
  Operator.lexical.map Operator.text ++ compoundAssignments ++ punctuation.filterMap Kind.spelling?

section Spelled

variable {rest : List Char} (ends : ∀ c, rest.head? = some c → CharClass.ofChar c = .blank)

include ends

theorem spells_run {group : CharClass} {chars : List Char} {token : Token}
    (gathers : Scanner.Gathers group) (nonempty : chars ≠ [])
    (inClass : ∀ c ∈ chars, CharClass.ofChar c = group)
    (single : group = .symbol → commentStart? chars = none)
    (made : ∀ line, ofRun group chars line = .ok (some ⟨token.kind, token.payload, line⟩)) :
    Spells chars token rest := by
  obtain ⟨first, others, rfl⟩ := List.exists_cons_of_ne_nil nonempty
  have stops : ∀ c, rest.head? = some c → CharClass.ofChar c ≠ group := by
    intro c head same
    rw [ends c head] at same
    rw [← same] at gathers
    rcases gathers with other | other | other <;> cases other
  refine ⟨first, others, rfl, ?_⟩
  rw [read_run inClass stops gathers single]
  congr
  funext line
  exact made line

theorem spells_word {text : String} {token : Token} (nonempty : text.toList ≠ [])
    (letters : ∀ c ∈ text.toList, Text.isLetter c = true ∨ c = '_')
    (made : ∀ line, ofWord text line = ⟨token.kind, token.payload, line⟩) :
    Spells text.toList token rest := by
  refine spells_run ends (.inl rfl) nonempty
    (fun c member => CharClass.ofChar_of_isLetter (letters c member)) nofun fun line => ?_
  rw [← made line, ofRun, String.ofList_toList]

theorem spells_name {text : String} (isName : IsName text) (line : Nat) :
    Spells text.toList ⟨.identifier, some (.text text), line⟩ rest := by
  refine spells_word ends isName.nonempty isName.letters fun line => ?_
  simp [ofWord, isName.noKeyword]

theorem spells_keyword {word : String} (member : word ∈ keywords) (line : Nat) :
    Spells word.toList ⟨.keyword, some (.text word), line⟩ rest := by
  have told : ∀ word ∈ keywords, word.toList ≠ [] ∧
      (word.toList.all fun c => Text.isLetter c || c == '_') = true := by
    decide
  obtain ⟨nonempty, letters⟩ := told word member
  refine spells_word ends nonempty (by simpa using letters) fun line => ?_
  simp [ofWord, member]

theorem spells_integer {value : Int} (nonneg : 0 ≤ value) (small : value ≤ integerMax)
    (line : Nat) :
    Spells (toString value).toList ⟨.integer, some (.integer value), line⟩ rest := by
  obtain ⟨n, rfl⟩ := Int.eq_ofNat_of_zero_le nonneg
  have digits : (toString (n : Int)).toList = Nat.toDigits 10 n := by
    rw [Int.toString_eq_repr, Int.repr_eq_if, if_pos nonneg, Nat.toList_repr, Int.toNat_natCast]
  rw [digits]
  exact spells_run ends (.inr (.inl rfl)) Nat.toDigits_ne_nil (fun _ => ofChar_of_mem_toDigits)
    nofun (ofRun_toDigits small)

theorem spells_symbol {text : String} {token : Token} (listed : text ∈ symbolTexts)
    (made : ∀ line, ofSymbol? text line = some ⟨token.kind, token.payload, line⟩) :
    Spells text.toList token rest := by
  have told : ∀ text ∈ symbolTexts, text.toList ≠ [] ∧ commentStart? text.toList = none ∧
      text.toList ⊆ CharClass.symbols := by
    decide
  obtain ⟨nonempty, single, symbols⟩ := told text listed
  refine spells_run ends (.inr (.inr rfl)) nonempty
    (fun c member => CharClass.ofChar_of_mem_symbols c (symbols member)) (fun _ => single)
    fun line => ?_
  have filled : ¬ text.toList.isEmpty = true := by simpa using nonempty
  simp only [ofRun, if_neg filled, String.ofList_toList, made line]

theorem spells_operator {op : Operator} (member : op ∈ Operator.lexical) (line : Nat) :
    Spells op.text.toList ⟨.operator, some (.text op.text), line⟩ rest := by
  have told : ∀ op ∈ Operator.lexical, op.text ∈ symbolTexts ∧
      (punctuation.find? fun kind => kind.spelling? == some op.text) = none ∧
      compoundAssignments.contains op.text = false ∧
      (Operator.lexical.any fun other => other.text == op.text) = true := by
    decide
  obtain ⟨listed, noMark, noCompound, found⟩ := told op member
  refine spells_symbol ends listed fun line => ?_
  simp only [ofSymbol?, noMark, noCompound, found]
  rfl

theorem spells_compound {text : String} (member : text ∈ compoundAssignments) (line : Nat) :
    Spells text.toList ⟨.compoundAssign, some (.text text), line⟩ rest := by
  have told : ∀ text ∈ compoundAssignments, text ∈ symbolTexts ∧
      (punctuation.find? fun kind => kind.spelling? == some text) = none ∧
      compoundAssignments.contains text = true := by
    decide
  obtain ⟨listed, noMark, found⟩ := told text member
  refine spells_symbol ends listed fun line => ?_
  simp only [ofSymbol?, noMark, found]
  rfl

theorem spells_mark {kind : Kind} {text : String} (spelled : kind.spelling? = some text)
    (line : Nat) : Spells text.toList ⟨kind, none, line⟩ rest := by
  have sorts : kind ∈ punctuation ∨ ∃ c, text.toList = [c] ∧ CharClass.bracket? c = some kind := by
    cases kind with
    | semicolon | comma | define | assign | doubleColon => exact .inl (by decide)
    | openParen | closeParen | openBrace | closeBrace | openBracket | closeBracket =>
        cases spelled
        exact .inr ⟨_, rfl, rfl⟩
    | operator | string | integer | float | identifier | keyword | compoundAssign => cases spelled
  rcases sorts with mark | ⟨c, single, bracket⟩
  · have told : ∀ kind ∈ punctuation, ∀ text ∈ kind.spelling?, text ∈ symbolTexts ∧
        (punctuation.find? fun other => other.spelling? == some text) = some kind := by
      decide
    obtain ⟨listed, found⟩ := told kind mark text spelled
    refine spells_symbol ends listed fun line => ?_
    simp only [ofSymbol?, found]
  · refine ⟨c, [], single, ?_⟩
    rw [Lexeme.read, CharClass.ofChar_of_bracket bracket]
    rfl

omit ends in
theorem spells_string {text : String} (expressible : Expressible text.toList) (line : Nat) :
    Spells (literal text).toList ⟨.string, some (.text text), line⟩ rest := by
  obtain ⟨plain, within⟩ := expressible_iff.mp expressible
  rw [← balanced_escaped] at within
  refine ⟨'\"', escaped text.toList ++ ['\"'], by simp [literal], ?_⟩
  rw [List.append_assoc, List.singleton_append, read_string within, unescape_escaped plain,
    String.ofList_toList]
  simp

theorem Spellable.spells {token : Token} (spellable : token.Spellable) :
    Spells token.spelling.toList token rest := by
  obtain ⟨lexical, exact, expressible⟩ := spellable
  cases lexical with
  | name isName => exact spells_name ends isName _
  | keyword member => exact spells_keyword ends member _
  | integer nonneg small => exact spells_integer ends nonneg small _
  | float => exact absurd rfl exact
  | string => exact spells_string (expressible _ rfl rfl) _
  | operator member => exact spells_operator ends member _
  | compound member => exact spells_compound ends member _
  | @mark kind line isSome =>
      obtain ⟨text, spelled⟩ := Option.isSome_iff_exists.mp isSome
      have same : spelling ⟨kind, none, line⟩ = text := by
        simp only [spelling, spelled]
      rw [same]
      exact spells_mark ends spelled line

end Spelled

theorem read_comment {text : List Char} (oneLine : '\n' ∉ text) (rest : List Char) :
    Lexeme.read '/' ('/' :: (text ++ '\n' :: rest)) =
      ⟨text.length + 2, fun _ => .ok none⟩ := by
  have run : ('/' :: '/' :: (text ++ '\n' :: rest)).takeWhile (CharClass.ofChar · == .symbol) =
      '/' :: '/' :: (text ++ '\n' :: rest).takeWhile (CharClass.ofChar · == .symbol) := by
    simp [Scanner.ofChar_slash]
  have atStart : commentStart? ('/' :: '/' ::
      (text ++ '\n' :: rest).takeWhile (CharClass.ofChar · == .symbol)) = some 0 := by
    rw [commentStart?, List.length_cons, List.range_succ_eq_map, List.find?_cons]
    rfl
  have line : (text ++ '\n' :: rest).takeWhile (· != '\n') = text := by
    rw [List.takeWhile_append_of_pos]
    · simp
    · intro c member
      exact bne_iff_ne.mpr fun newline => oneLine (newline ▸ member)
  rw [Lexeme.read, Scanner.ofChar_slash]
  dsimp only [Lexeme.symbols]
  rw [run, atStart]
  simp [line]

theorem munch_skips {first : Char} {others rest : List Char}
    (read : Lexeme.read first (others ++ rest) = ⟨others.length, fun _ => .ok none⟩)
    (before : List Char) :
    munch before (first :: others ++ rest) = munch (before ++ first :: others) rest := by
  rw [munch_lexeme read rfl]
  cases munch (before ++ first :: others) rest <;> rfl

theorem Filler.munch_eq {gap : List Char} (filler : Filler gap) (before rest : List Char) :
    munch before (gap ++ rest) = munch (before ++ gap) rest := by
  induction filler generalizing before with
  | nil => rw [List.append_nil, List.nil_append]
  | @blank c gap blank _ ih =>
      have read : Lexeme.read c ([] ++ (gap ++ rest)) = ⟨0, fun _ => .ok none⟩ := by
        rw [Lexeme.read, CharClass.ofChar_of_isBlank blank]
      have skipped := munch_skips read before
      rw [ih] at skipped
      simpa using skipped
  | @comment text gap oneLine _ ih =>
      have read : Lexeme.read '/' ('/' :: (text ++ ['\n']) ++ (gap ++ rest)) =
          ⟨('/' :: (text ++ ['\n'])).length, fun _ => .ok none⟩ := by
        simpa using read_comment oneLine (gap ++ rest)
      have skipped := munch_skips read before
      rw [ih] at skipped
      simpa using skipped

theorem Separator.filler {gap : List Char} (separator : Separator gap) : Filler gap := by
  cases separator with
  | mk blank filler => exact .blank blank filler

theorem Separator.head_blank {gap rest : List Char} (separator : Separator gap) :
    ∀ c, (gap ++ rest).head? = some c → CharClass.ofChar c = .blank := by
  intro c head
  cases separator with
  | mk blank _ =>
      cases head
      exact CharClass.ofChar_of_isBlank blank

theorem munch_written {entries : List Entry}
    (spellable : ∀ entry ∈ entries, entry.token.Spellable)
    (separated : ∀ entry ∈ entries.dropLast, Separator entry.gap)
    (closed : ∀ entry ∈ entries.getLast?, entry.gap = [] ∨ Separator entry.gap)
    (before : List Char) :
    munch before (written entries) =
      .ok (entries.mapIdx fun index entry =>
        ⟨entry.token.kind, entry.token.payload,
          lineFollowing (before ++ written (entries.take index))⟩) := by
  induction entries generalizing before with
  | nil =>
      rw [written, List.flatMap_nil, munch]
      rfl
  | cons entry entries ih =>
      rw [List.forall_mem_cons] at spellable
      -- Only the last token may be followed by nothing, and then by the end of the text.
      obtain ⟨filler, ends, laterSeparated, laterClosed⟩ : Filler entry.gap ∧
          (∀ c, (entry.gap ++ written entries).head? = some c → CharClass.ofChar c = .blank) ∧
          (∀ entry ∈ entries.dropLast, Separator entry.gap) ∧
          ∀ entry ∈ entries.getLast?, entry.gap = [] ∨ Separator entry.gap := by
        cases entries with
        | nil =>
            rcases closed entry rfl with nothing | separator
            · rw [nothing]
              exact ⟨.nil, by simp [written], by simp, by simp⟩
            · exact ⟨separator.filler, separator.head_blank, by simp, by simp⟩
        | cons next more =>
            rw [List.dropLast_cons_cons, List.forall_mem_cons] at separated
            rw [List.getLast?_cons_cons] at closed
            exact ⟨separated.1.filler, separated.1.head_blank, separated.2, closed⟩
      have spells := spellable.1.spells ends
      have later := ih spellable.2 laterSeparated laterClosed (before ++ entry.chars)
      have text : written (entry :: entries) =
          entry.token.spelling.toList ++ (entry.gap ++ written entries) := by
        simp [written, Entry.chars]
      have passed : before ++ entry.token.spelling.toList ++ entry.gap = before ++ entry.chars :=
        List.append_assoc _ _ _
      have here : before ++ written ((entry :: entries).take 0) = before := by
        simp [written]
      have lines (index : Nat) : before ++ written ((entry :: entries).take (index + 1)) =
          before ++ entry.chars ++ written (entries.take index) := by
        simp [written]
      rw [text, spells.munch_eq, filler.munch_eq, passed, later, List.mapIdx_cons]
      simp only [here, lines]
      rfl

/-- Scanning undoes writing: it gives the tokens that were written, each on the line it begins
on. -/
theorem scan_written {entries : List Entry}
    (spellable : ∀ entry ∈ entries, entry.token.Spellable)
    (separated : ∀ entry ∈ entries.dropLast, Separator entry.gap)
    (closed : ∀ entry ∈ entries.getLast?, entry.gap = [] ∨ Separator entry.gap) :
    scan (String.ofList (written entries)) =
      .ok (entries.mapIdx fun index entry =>
        ⟨entry.token.kind, entry.token.payload,
          1 + (written (entries.take index)).count '\n'⟩) := by
  rw [Scanner.scan_eq_complete, Scanner.complete_start, String.toList_ofList]
  exact munch_written spellable separated closed []

/-- A comment right after a slash, a string over two lines, and a name that begins like a
keyword. -/
def touchyEntries : List Entry :=
  [⟨⟨.operator, some (.text "/"), 1⟩, [' ', '/', '/', 'x', '\n']⟩,
    ⟨⟨.string, some (.text "\"//\n"), 1⟩, ['\n']⟩,
    ⟨⟨.keyword, some (.text "if"), 1⟩, [' ']⟩,
    ⟨⟨.identifier, some (.text "iff"), 1⟩, []⟩]

theorem scan_written_touchyEntries :
    (∀ entry ∈ touchyEntries, entry.token.Spellable) ∧
    (∀ entry ∈ touchyEntries.dropLast, Separator entry.gap) ∧
    scan "/ //x\n\"\\\"//\n\"\nif iff" =
      .ok [⟨.operator, some (.text "/"), 1⟩, ⟨.string, some (.text "\"//\n"), 2⟩,
        ⟨.keyword, some (.text "if"), 4⟩, ⟨.identifier, some (.text "iff"), 4⟩] := by
  have slash : Operator.divide ∈ Operator.lexical := by decide
  have letters : ("iff".toList.all fun c => Text.isLetter c || c == '_') = true := by decide
  have name : IsName "iff" := ⟨by decide, by simpa using List.all_eq_true.mp letters, by decide⟩
  have space : Text.isBlank ' ' = true := by decide +kernel
  have newline : Text.isBlank '\n' = true := by decide +kernel
  have comment : Filler ('/' :: '/' :: (['x'] ++ '\n' :: [])) := .comment (by decide) .nil
  have expressible : Expressible "\"//\n".toList := by
    refine expressible_iff.mpr ⟨fun letter _ found => ?_, by decide⟩
    exact absurd (found.subset List.mem_cons_self) (by decide)
  have spellable : ∀ entry ∈ touchyEntries, entry.token.Spellable := by
    simp only [touchyEntries, List.forall_mem_cons]
    refine ⟨⟨.operator slash, nofun, nofun⟩, ⟨.string, nofun, ?_⟩,
      ⟨.keyword (by decide), nofun, nofun⟩, ⟨.name name, nofun, nofun⟩, by simp⟩
    rintro text _ ⟨⟩
    exact expressible
  have separated : ∀ entry ∈ touchyEntries.dropLast, Separator entry.gap := by
    simp only [touchyEntries, List.dropLast, List.forall_mem_cons]
    exact ⟨.mk space comment, .mk newline .nil, .mk space .nil, by simp⟩
  have closed : ∀ entry ∈ touchyEntries.getLast?, entry.gap = [] ∨ Separator entry.gap := by
    rintro entry ⟨⟩
    exact .inl rfl
  have text : String.ofList (written touchyEntries) = "/ //x\n\"\\\"//\n\"\nif iff" := by
    decide +kernel
  have scanned := scan_written spellable separated closed
  rw [text] at scanned
  exact ⟨spellable, separated, scanned⟩

end Scriptlet.Token
