import Scriptlet.Proofs.Token.Source

/-!
Texts joined by a newline. A newline ends whatever lexeme it meets, a comment included, so the
tokens of the joined text are those of the first part followed by those of the second, which are
further down by the lines of the first.
-/

namespace Scriptlet.Token

def relined (place : Nat → Nat) (token : Token) : Token :=
  { token with line := place token.line }

section Relined

variable (place : Nat → Nat)

theorem ofNumeral_relined (text : List Char) (line : Nat) :
    ofNumeral? text (place line) = (ofNumeral? text line).map (relined place) := by
  have asFloat : (Number.Numeral.decimal? text).map (fun value =>
        (⟨.float, some (.float value), place line⟩ : Token)) =
      ((Number.Numeral.decimal? text).map fun value =>
        (⟨.float, some (.float value), line⟩ : Token)).map (relined place) := by
    cases Number.Numeral.decimal? text <;> rfl
  unfold ofNumeral?
  cases Number.Numeral.integer? text with
  | none => exact asFloat
  | some value =>
      by_cases small : value ≤ integerMax
      · simp only [small, if_true]
        rfl
      · simp only [small, if_false]
        exact asFloat

theorem ofSymbol_relined (text : String) (line : Nat) :
    ofSymbol? text (place line) = (ofSymbol? text line).map (relined place) := by
  unfold ofSymbol?
  cases punctuation.find? fun kind => kind.spelling? == some text with
  | some kind => rfl
  | none =>
      dsimp only
      split
      · rfl
      · split <;> rfl

def onLines {Found : Type} (move : Found → Found) : Except Fault Found → Except Fault Found
  | .ok found => .ok (move found)
  | .error fault => .error { fault with line := fault.line.map place }

theorem ofRun_relined (group : CharClass) (run : List Char) (line : Nat) :
    ofRun group run (place line) =
      onLines place (Option.map (relined place)) (ofRun group run line) := by
  cases group with
  | letter | bracket | quote | blank => rfl
  | numeric =>
      simp only [ofRun, ofNumeral_relined]
      cases ofNumeral? run line <;> rfl
  | symbol =>
      simp only [ofRun, ofSymbol_relined]
      by_cases empty : run.isEmpty = true
      · simp only [if_pos empty]
        rfl
      · simp only [if_neg empty]
        cases ofSymbol? (String.ofList run) line <;> rfl

theorem Lexeme.outcome_relined (first : Char) (rest : List Char) (line : Nat) :
    (read first rest).outcome (place line) =
      onLines place (Option.map (relined place)) ((read first rest).outcome line) := by
  unfold read
  cases CharClass.ofChar first with
  | blank | bracket => rfl
  | quote =>
      dsimp only [string]
      cases bodyLength? rest <;> rfl
  | symbol =>
      dsimp only [symbols]
      cases commentStart? ((first :: rest).takeWhile (CharClass.ofChar · == .symbol)) with
      | none =>
          dsimp only
          exact ofRun_relined place _ _ line
      | some index =>
          dsimp only
          by_cases atStart : index = 0
          · simp only [if_pos atStart]
            rfl
          · simp only [if_neg atStart]
            exact ofRun_relined place _ _ line
  | letter | numeric =>
      dsimp only [run]
      exact ofRun_relined place _ _ line

end Relined

/-- Text that stands further down means the same there, fault or not. -/
theorem munch_later (earlier before rest : List Char) :
    munch (earlier ++ before) rest =
      onLines (· + earlier.count '\n') (List.map (relined (· + earlier.count '\n')))
        (munch before rest) := by
  generalize size : rest.length = length
  induction length using Nat.strongRecOn generalizing before rest with
  | ind length ih =>
      cases rest with
      | nil =>
          rw [munch, munch]
          rfl
      | cons first rest =>
          have lines : lineFollowing (earlier ++ before) =
              lineFollowing before + earlier.count '\n' := by
            simp only [lineFollowing, List.count_append]
            omega
          have shorter : (rest.drop (Lexeme.read first rest).more).length < length := by
            rw [← size, List.length_drop, List.length_cons]
            omega
          have here := Lexeme.outcome_relined (· + earlier.count '\n') first rest
            (lineFollowing before)
          have later := ih _ shorter (before ++ first :: rest.take (Lexeme.read first rest).more)
            _ rfl
          rw [munch, munch, lines, here, List.append_assoc, later]
          cases (Lexeme.read first rest).outcome (lineFollowing before) with
          | error fault => rfl
          | ok found =>
              cases munch (before ++ first :: rest.take (Lexeme.read first rest).more)
                (rest.drop (Lexeme.read first rest).more) with
              | error fault => rfl
              | ok others => cases found <;> rfl

namespace Scanner

theorem complete_append (scanner : Scanner) (chars rest : List Char) :
    scanner.complete (chars ++ rest) =
      chars.foldlM step scanner >>= fun reached => reached.complete rest := by
  simp [complete, List.foldlM_append]

theorem complete_eq_ok {scanner : Scanner} {chars : List Char} {tokens : List Token}
    (completed : scanner.complete chars = .ok tokens) :
    ∃ reached last, chars.foldlM step scanner = .ok reached ∧ reached.finish = .ok last ∧
      last.reversed.reverse = tokens := by
  unfold complete at completed
  cases read : chars.foldlM step scanner with
  | error fault =>
      rw [read] at completed
      cases completed
  | ok reached =>
      rw [read] at completed
      change reached.finish >>= (fun last => pure last.reversed.reverse) = _ at completed
      cases finished : reached.finish with
      | error fault =>
          rw [finished] at completed
          cases completed
      | ok last =>
          rw [finished] at completed
          cases completed
          exact ⟨reached, last, rfl, finished, rfl⟩

theorem flush_line {scanner next : Scanner} (flushed : scanner.flush = .ok next) :
    next.line = scanner.line := by
  unfold flush at flushed
  split at flushed
  · split at flushed <;> cases flushed <;> rfl
  · cases flushed
    rfl

theorem enter_line {scanner next : Scanner} {group : CharClass} {held : List Char}
    (entered : scanner.enter group held = .ok next) : next.line = scanner.line := by
  unfold enter at entered
  split at entered
  · cases entered
    rfl
  · cases entered
    rfl
  · split at entered
    next flushed =>
      cases entered
      exact (flush_line flushed :)
    next => cases entered
  · cases entered
    rfl

theorem step_line {scanner next : Scanner} {c : Char} (steps : scanner.step c = .ok next) :
    next.line = scanner.line + [c].count '\n' := by
  rw [← lineAfter_eq]
  unfold step at steps
  dsimp only at steps
  split at steps
  · cases steps
    rfl
  · split at steps
    next ends =>
      simp only [Bool.and_eq_true, beq_iff_eq] at ends
      cases steps
      rw [ends.1]
      rfl
    next =>
      cases steps
      rfl
  · split at steps
    next => exact (enter_line steps :)
    next =>
      split at steps
      next => exact (enter_line steps :)
      next => cases steps
  · exact (enter_line steps :)

theorem foldlM_step_line {chars : List Char} {scanner reached : Scanner}
    (steps : chars.foldlM step scanner = .ok reached) :
    reached.line = scanner.line + chars.count '\n' := by
  induction chars generalizing scanner with
  | nil =>
      cases steps
      rfl
  | cons c rest ih =>
      rw [List.foldlM_cons] at steps
      cases first : scanner.step c with
      | error fault =>
          rw [first] at steps
          cases steps
      | ok next =>
          rw [first] at steps
          rw [ih steps, step_line first, Nat.add_assoc, ← List.count_append,
            List.singleton_append]

theorem ofChar_newline : CharClass.ofChar '\n' = .blank := by
  decide +kernel

/-- A newline leaves the scanner with the tokens it would have had at the end of the text. -/
theorem step_newline {scanner last : Scanner} (finished : scanner.finish = .ok last) :
    ∃ start, scanner.step '\n' = .ok ⟨.between, scanner.line + 1, start, last.reversed⟩ := by
  rcases scanner with ⟨mode, line, start, reversed⟩
  cases mode with
  | between =>
      cases finished
      exact ⟨line, by rw [step_between, ofChar_newline]; rfl⟩
  | comment =>
      cases finished
      exact ⟨start, rfl⟩
  | string held => cases finished
  | run group held =>
      have flushed : flush ⟨.run group held, line, start, reversed⟩ = .ok last := finished
      unfold step
      rw [ofChar_newline]
      dsimp only
      by_cases blank : group = .blank
      · subst blank
        cases flushed
        exact ⟨start, rfl⟩
      · have other : ¬ (group == .blank && CharClass.bracket? '\n' == none) = true := by
          simp [blank]
        rw [if_neg other, flushed]
        exact ⟨line, rfl⟩

end Scanner

/-- After a newline the scanner starts afresh, whatever the first text left it in. -/
theorem scan_joined {first : String} {tokens : List Token} (scanned : scan first = .ok tokens)
    (second : String) :
    scan (first ++ "\n" ++ second) =
      munch (first.toList ++ ['\n']) second.toList >>= fun others => .ok (tokens ++ others) := by
  rw [Scanner.scan_eq_complete] at scanned
  obtain ⟨reached, last, read, finished, rfl⟩ := Scanner.complete_eq_ok scanned
  obtain ⟨start, steps⟩ := Scanner.step_newline finished
  have chars : (first ++ "\n" ++ second).toList = first.toList ++ '\n' :: second.toList := by
    simp
  have next : reached.line + 1 = lineFollowing (first.toList ++ ['\n']) := by
    have line : reached.line = 1 + first.toList.count '\n' := Scanner.foldlM_step_line read
    simp only [line, lineFollowing, List.count_append, List.count_singleton_self]
    omega
  rw [Scanner.scan_eq_complete, chars, Scanner.complete_append, read]
  change reached.complete ('\n' :: second.toList) = _
  rw [Scanner.complete_of_step steps, next, Scanner.complete_eq_munch]

theorem munch_after (first : List Char) (second : String) :
    munch (first ++ ['\n']) second.toList =
      onLines (· + (first.count '\n' + 1)) (List.map (relined (· + (first.count '\n' + 1))))
        (scan second) := by
  have later := munch_later (first ++ ['\n']) [] second.toList
  rw [Scanner.scan_eq_complete, Scanner.complete_start]
  simpa only [List.append_nil, List.count_append, List.count_singleton_self] using later

theorem scan_newline {first second : String} {tokens others : List Token}
    (firstScanned : scan first = .ok tokens) (secondScanned : scan second = .ok others) :
    scan (first ++ "\n" ++ second) =
      .ok (tokens ++ others.map (relined (· + lineFollowing first.toList))) := by
  rw [scan_joined firstScanned, munch_after, secondScanned, lineFollowing, Nat.add_comm 1]
  rfl

/-- Scanning takes texts that a newline joins one after the other. The first may leave the scanner
in any state in which it could end; the second gives its own tokens, or its own fault, as far
down as the first has lines. -/
theorem scan_append_newline {first : String} {tokens : List Token}
    (scanned : scan first = .ok tokens) (second : String) :
    (∀ others, scan second = .ok others →
      scan (first ++ "\n" ++ second) =
        .ok (tokens ++ others.map (relined (· + (first.toList.count '\n' + 1))))) ∧
    ∀ fault, scan second = .error fault →
      ∃ line, fault.line = some line ∧
        scan (first ++ "\n" ++ second) =
          .error { fault with line := some (line + (first.toList.count '\n' + 1)) } := by
  have joined := scan_joined scanned second
  rw [munch_after] at joined
  constructor
  · intro others secondScanned
    rw [joined, secondScanned]
    rfl
  · intro fault failed
    obtain ⟨-, -, line, met, -⟩ := fault_of_scan failed
    refine ⟨line, met, ?_⟩
    rw [joined, failed]
    change Except.error { fault with line := fault.line.map _ } = _
    rw [met]
    rfl

/-- The first text ends inside a comment, the second inside a string. -/
theorem scan_append_newline_unfinished :
    scan "n + // \"" =
      .ok [⟨.identifier, some (.text "n"), 1⟩, ⟨.operator, some (.text "+"), 1⟩] ∧
    scan "\n\"m" = .error ⟨.unterminatedString, some 2, none⟩ ∧
    scan ("n + // \"" ++ "\n" ++ "\n\"m") = .error ⟨.unterminatedString, some 3, none⟩ := by
  have scanned : scan "n + // \"" =
      .ok [⟨.identifier, some (.text "n"), 1⟩, ⟨.operator, some (.text "+"), 1⟩] := by
    with_unfolding_all rfl
  have failed : scan "\n\"m" = .error ⟨.unterminatedString, some 2, none⟩ := by
    with_unfolding_all rfl
  obtain ⟨line, met, joined⟩ := (scan_append_newline scanned "\n\"m").2 _ failed
  cases met
  exact ⟨scanned, failed, joined⟩

end Scriptlet.Token
