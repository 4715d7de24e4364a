import Scriptlet.Proofs.Token.MaximalMunch

/-!
The tokens of a source text. Each of them, and the fault where there is one, is made by a lexeme on
the line where the lexeme begins. So the tokens are those that the vocabulary of the language
allows, and all lines are lines of the source.
-/

namespace Scriptlet

def lineCount (source : String) : Nat :=
  1 + source.toList.count '\n'

structure IsName (text : String) : Prop where
  nonempty : text.toList ≠ []
  letters : ∀ c ∈ text.toList, Text.isLetter c = true ∨ c = '_'
  noKeyword : text ∉ Token.keywords

namespace Token

inductive Lexical : Token → Prop
  | name {text : String} {line : Nat} :
      IsName text → Lexical ⟨.identifier, some (.text text), line⟩
  | keyword {word : String} {line : Nat} :
      word ∈ keywords → Lexical ⟨.keyword, some (.text word), line⟩
  | integer {value : Int} {line : Nat} :
      0 ≤ value → value ≤ integerMax → Lexical ⟨.integer, some (.integer value), line⟩
  | float {value : Float} {line : Nat} : Lexical ⟨.float, some (.float value), line⟩
  | string {text : String} {line : Nat} : Lexical ⟨.string, some (.text text), line⟩
  | operator {op : Operator} {line : Nat} :
      op ∈ Operator.lexical → Lexical ⟨.operator, some (.text op.text), line⟩
  | compound {text : String} {line : Nat} :
      text ∈ compoundAssignments → Lexical ⟨.compoundAssign, some (.text text), line⟩
  | mark {kind : Kind} {line : Nat} :
      kind.spelling?.isSome = true → Lexical ⟨kind, none, line⟩

theorem letter_of_ofChar {c : Char} (letter : CharClass.ofChar c = .letter) :
    Text.isLetter c = true ∨ c = '_' := by
  unfold CharClass.ofChar at letter
  split at letter
  next found => simpa using found
  next =>
    exfalso
    split at letter
    · cases letter
    · split at letter
      · cases letter
      · split at letter
        · cases letter
        · split at letter <;> cases letter

theorem lexical_ofWord {run : List Char} (nonempty : run ≠ [])
    (letters : ∀ c ∈ run, CharClass.ofChar c = .letter) (line : Nat) :
    (ofWord (String.ofList run) line).Lexical := by
  unfold ofWord
  by_cases reserved : keywords.contains (String.ofList run) = true
  · rw [if_pos reserved]
    exact .keyword (by simpa using reserved)
  · rw [if_neg reserved]
    refine .name ⟨by simpa using nonempty, fun c member => ?_, by simpa using reserved⟩
    exact letter_of_ofChar (letters c (by simpa using member))

theorem mem_of_mem_trim {c : Char} {text : List Char} (member : c ∈ Number.Numeral.trim text) :
    c ∈ text := by
  have front := (List.dropWhile_suffix Text.isNumeralBlank).subset (List.mem_reverse.mp member)
  exact (List.dropWhile_suffix Text.isNumeralBlank).subset (List.mem_reverse.mp front)

/-- Without a minus sign a numeral is not negative. -/
theorem integer_nonneg {text : List Char} {value : Int} (unsigned : '-' ∉ text)
    (read : Number.Numeral.integer? text = some value) : 0 ≤ value := by
  unfold Number.Numeral.integer? at read
  split at read
  next digits trimmed =>
    have member : '-' ∈ Number.Numeral.trim text := by simp [trimmed]
    exact absurd (mem_of_mem_trim member) unsigned
  next digits _ =>
    cases natural : Number.Numeral.natural? digits with
    | none =>
        rw [natural] at read
        cases read
    | some n =>
        rw [natural] at read
        cases read
        exact Int.natCast_nonneg n
  next =>
    cases natural : Number.Numeral.natural? (Number.Numeral.trim text) with
    | none =>
        rw [natural] at read
        cases read
    | some n =>
        rw [natural] at read
        cases read
        exact Int.natCast_nonneg n

theorem ofChar_minus : CharClass.ofChar '-' = .symbol := by
  decide +kernel

theorem lexical_ofNumeral {run : List Char} (numeric : ∀ c ∈ run, CharClass.ofChar c = .numeric)
    {line : Nat} {token : Token} (made : ofNumeral? run line = some token) :
    token.Lexical ∧ token.line = line := by
  have asFloat (made : (Number.Numeral.decimal? run).map
      (fun value => (⟨.float, some (.float value), line⟩ : Token)) = some token) :
      token.Lexical ∧ token.line = line := by
    obtain ⟨value, _, rfl⟩ := Option.map_eq_some_iff.mp made
    exact ⟨.float, rfl⟩
  have unsigned : '-' ∉ run := by
    intro member
    have numericSign := numeric '-' member
    rw [ofChar_minus] at numericSign
    cases numericSign
  unfold ofNumeral? at made
  dsimp only at made
  split at made
  next value read =>
    by_cases small : value ≤ integerMax
    · rw [if_pos small] at made
      cases made
      exact ⟨.integer (integer_nonneg unsigned read) small, rfl⟩
    · rw [if_neg small] at made
      exact asFloat made
  next => exact asFloat made

theorem lexical_ofSymbol {text : String} {line : Nat} {token : Token}
    (made : ofSymbol? text line = some token) : token.Lexical ∧ token.line = line := by
  unfold ofSymbol? at made
  split at made
  next kind found =>
    have spelled := List.find?_some found
    cases made
    refine ⟨.mark ?_, rfl⟩
    rw [beq_iff_eq.mp spelled]
    rfl
  next =>
    by_cases compound : compoundAssignments.contains text = true
    · rw [if_pos compound] at made
      cases made
      exact ⟨.compound (by simpa using compound), rfl⟩
    · rw [if_neg compound] at made
      by_cases spelled : (Operator.lexical.any fun op => op.text == text) = true
      · rw [if_pos spelled] at made
        cases made
        obtain ⟨op, member, same⟩ := List.any_eq_true.mp spelled
        cases beq_iff_eq.mp same
        exact ⟨.operator member, rfl⟩
      · rw [if_neg spelled] at made
        cases made

structure MadeOn (line : Nat) (result : Except Fault (Option Token)) : Prop where
  token : ∀ token, result = .ok (some token) → token.Lexical ∧ token.line = line
  fault : ∀ fault, result = .error fault →
    fault.cause.stage = .lexing ∧ fault.line = some line ∧ fault.file = none

theorem madeOn_nothing (line : Nat) : MadeOn line (.ok none) where
  token _ same := by cases same
  fault _ same := by cases same

theorem madeOn_token {token : Token} (lexical : token.Lexical) :
    MadeOn token.line (.ok (some token)) where
  token _ same := by
    cases same
    exact ⟨lexical, rfl⟩
  fault _ same := by cases same

theorem madeOn_fault {line : Nat} {cause : Cause} (lexing : cause.stage = .lexing) :
    MadeOn line (.error { cause := cause, line := some line }) where
  token _ same := by cases same
  fault _ same := by
    cases same
    exact ⟨lexing, rfl, rfl⟩

theorem madeOn_run {group : CharClass} {run : List Char} (nonempty : run ≠ [])
    (inClass : ∀ c ∈ run, CharClass.ofChar c = group) (line : Nat) :
    MadeOn line (ofRun group run line) := by
  unfold ofRun
  cases group with
  | letter => exact madeOn_token (lexical_ofWord nonempty inClass line)
  | numeric =>
      dsimp only
      cases made : ofNumeral? run line with
      | none => exact madeOn_fault rfl
      | some token =>
          obtain ⟨lexical, rfl⟩ := lexical_ofNumeral inClass made
          exact madeOn_token lexical
  | bracket kind =>
      obtain ⟨first, rest, rfl⟩ := List.exists_cons_of_ne_nil nonempty
      have spelled := CharClass.bracket_of_ofChar (inClass first (by simp))
      refine madeOn_token (.mark ?_)
      unfold CharClass.bracket? at spelled
      split at spelled <;> cases spelled <;> rfl
  | symbol =>
      dsimp only
      by_cases empty : run.isEmpty = true
      · rw [if_pos empty]
        exact madeOn_nothing line
      · rw [if_neg empty]
        cases made : ofSymbol? (String.ofList run) line with
        | none => exact madeOn_fault rfl
        | some token =>
            obtain ⟨lexical, rfl⟩ := lexical_ofSymbol made
            exact madeOn_token lexical
  | quote | blank => exact madeOn_nothing line

theorem ofChar_of_mem_takeWhile {group : CharClass} {c : Char} {chars : List Char}
    (member : c ∈ chars.takeWhile (CharClass.ofChar · == group)) : CharClass.ofChar c = group := by
  simpa using List.all_eq_true.mp List.all_takeWhile c member

theorem Lexeme.madeOn (first : Char) (rest : List Char) (line : Nat) :
    MadeOn line ((Lexeme.read first rest).outcome line) := by
  have runs {group : CharClass} (firstClass : CharClass.ofChar first = group) :
      MadeOn line ((Lexeme.run group first rest).outcome line) := by
    refine madeOn_run (by simp) (fun c member => ?_) line
    rcases List.mem_cons.mp member with rfl | later
    · exact firstClass
    · exact ofChar_of_mem_takeWhile later
  unfold Lexeme.read
  cases firstClass : CharClass.ofChar first with
  | blank => exact madeOn_nothing line
  | quote =>
      dsimp only [Lexeme.string]
      cases bodyLength? rest with
      | none => exact madeOn_fault rfl
      | some length => exact madeOn_token .string
  | bracket kind => exact madeOn_run (List.cons_ne_nil first []) (by simpa using firstClass) line
  | symbol =>
      dsimp only [Lexeme.symbols]
      have begins : (first :: rest).takeWhile (CharClass.ofChar · == .symbol) ≠ [] := by
        simp [firstClass]
      cases commentStart? ((first :: rest).takeWhile (CharClass.ofChar · == .symbol)) with
      | none => exact madeOn_run begins (fun c => ofChar_of_mem_takeWhile) line
      | some index =>
          dsimp only
          by_cases atStart : index = 0
          · rw [if_pos atStart]
            exact madeOn_nothing line
          · rw [if_neg atStart]
            refine madeOn_run ?_ (fun c member => ?_) line
            · rw [Ne, List.take_eq_nil_iff]
              exact not_or.mpr ⟨atStart, begins⟩
            · exact ofChar_of_mem_takeWhile (List.mem_of_mem_take member)
  | letter => exact runs firstClass
  | numeric => exact runs firstClass

/-- Where in a text a result is made: by a lexeme of it, on the line that the lexeme begins on. -/
def MadeIn (chars : List Char) (result : Except Fault (Option Token)) : Prop :=
  ∃ before first rest, chars = before ++ first :: rest ∧
    (Lexeme.read first rest).outcome (lineFollowing before) = result

theorem munch_cons_eq_error {before rest : List Char} {first : Char} {fault : Fault}
    (failed : munch before (first :: rest) = .error fault) :
    (Lexeme.read first rest).outcome (lineFollowing before) = .error fault ∨
      munch (before ++ first :: rest.take (Lexeme.read first rest).more)
        (rest.drop (Lexeme.read first rest).more) = .error fault := by
  rw [munch] at failed
  cases made : (Lexeme.read first rest).outcome (lineFollowing before) with
  | error met =>
      rw [made] at failed
      cases failed
      exact .inl rfl
  | ok found =>
      rw [made] at failed
      cases tail : munch (before ++ first :: rest.take (Lexeme.read first rest).more)
          (rest.drop (Lexeme.read first rest).more) with
      | error met =>
          simp only [tail] at failed
          cases failed
          exact .inr rfl
      | ok others =>
          simp only [tail] at failed
          cases failed

/-- The tokens of a text, or the fault in it, are made by its lexemes. -/
theorem madeIn_of_munch (before chars : List Char) :
    (∀ tokens, munch before chars = .ok tokens →
      ∀ token ∈ tokens, MadeIn (before ++ chars) (.ok (some token))) ∧
    ∀ fault, munch before chars = .error fault → MadeIn (before ++ chars) (.error fault) := by
  generalize size : chars.length = length
  induction length using Nat.strongRecOn generalizing before chars with
  | ind length ih =>
      cases chars with
      | nil =>
          rw [munch]
          constructor
          · intro tokens munched token member
            cases munched
            cases member
          · intro fault failed
            cases failed
      | cons first rest =>
          have shorter : (rest.drop (Lexeme.read first rest).more).length < length := by
            rw [← size, List.length_drop, List.length_cons]
            omega
          have later :=
            ih _ shorter (before ++ first :: rest.take (Lexeme.read first rest).more) _ rfl
          rw [List.append_assoc, List.cons_append, List.take_append_drop] at later
          constructor
          · intro tokens munched token member
            obtain ⟨found, others, made, tail, rfl⟩ := munch_cons_eq_ok munched
            rcases List.mem_append.mp member with here | after
            · rw [Option.mem_toList.mp here] at made
              exact ⟨before, first, rest, rfl, made⟩
            · exact later.1 others tail token after
          · intro fault failed
            rcases munch_cons_eq_error failed with made | tail
            · exact ⟨before, first, rest, rfl, made⟩
            · exact later.2 fault tail

theorem MadeIn.madeOn {source : String} {result : Except Fault (Option Token)}
    (made : MadeIn source.toList result) :
    ∃ line, 1 ≤ line ∧ line ≤ lineCount source ∧ MadeOn line result := by
  obtain ⟨before, first, rest, split, rfl⟩ := made
  refine ⟨lineFollowing before, ?_, ?_, Lexeme.madeOn first rest _⟩
  · unfold lineFollowing
    omega
  · unfold lineFollowing lineCount
    rw [split, List.count_append]
    omega

theorem lexical_of_scan {source : String} {tokens : List Token}
    (scanned : scan source = .ok tokens) {token : Token} (member : token ∈ tokens) :
    token.Lexical ∧ 1 ≤ token.line ∧ token.line ≤ lineCount source := by
  rw [Scanner.scan_eq_complete, Scanner.complete_start] at scanned
  have made := (madeIn_of_munch [] source.toList).1 tokens scanned token member
  obtain ⟨line, lower, upper, madeOn⟩ := made.madeOn
  obtain ⟨lexical, rfl⟩ := madeOn.token token rfl
  exact ⟨lexical, lower, upper⟩

theorem fault_of_scan {source : String} {fault : Fault} (failed : scan source = .error fault) :
    fault.cause.stage = .lexing ∧ fault.file = none ∧
      ∃ line, fault.line = some line ∧ 1 ≤ line ∧ line ≤ lineCount source := by
  rw [Scanner.scan_eq_complete, Scanner.complete_start] at failed
  have made := (madeIn_of_munch [] source.toList).2 fault failed
  obtain ⟨line, lower, upper, madeOn⟩ := made.madeOn
  obtain ⟨lexing, atLine, noFile⟩ := madeOn.fault fault rfl
  exact ⟨lexing, noFile, line, atLine, lower, upper⟩

end Token

end Scriptlet
