import Scriptlet.Token.Scan

/-!
Lexing as maximal munch. At each position the lexeme there is read off the characters ahead: how
far it reaches, and what it makes. The scanner, which sees one character at a time and ends a run
only at the character after it, gives the same tokens on the same lines, and the same faults.
-/

namespace Scriptlet.Token

def lineFollowing (before : List Char) : Nat :=
  1 + before.count '\n'

def trailingBackslashes (text : List Char) : Nat :=
  (text.reverse.takeWhile (· == '\\')).length

/-- Whether a string literal that these characters begin ends with the quote at `index`. -/
def closesAt (chars : List Char) (index : Nat) : Bool :=
  chars[index]? == some '\"' && trailingBackslashes (chars.take index) % 2 == 0

def bodyLength? (chars : List Char) : Option Nat :=
  (List.range chars.length).find? (closesAt chars)

def commentStart? (run : List Char) : Option Nat :=
  (List.range run.length).find? fun index => ['/', '/'].isPrefixOf (run.drop index)

/-- A lexeme takes `more` characters after its first one; `outcome` is what it makes on the line
it starts on. -/
structure Lexeme where
  more : Nat
  outcome : (line : Nat) → Except Fault (Option Token)

namespace Lexeme

def string (rest : List Char) : Lexeme :=
  match bodyLength? rest with
  | some length =>
      let text := String.ofList (unescape (rest.take length))
      ⟨length + 1, fun line => .ok (some ⟨.string, some (.text text), line⟩)⟩
  | none => ⟨rest.length, fun line => .error { cause := .unterminatedString, line := some line }⟩

/-- A run of symbols. A comment in it takes the rest of the line with it. -/
def symbols (chars : List Char) : Lexeme :=
  let run := chars.takeWhile (CharClass.ofChar · == .symbol)
  match commentStart? run with
  | none => ⟨run.length - 1, ofRun .symbol run⟩
  | some index =>
      let comment := (chars.drop index).takeWhile (· != '\n')
      ⟨index + comment.length,
        fun line => if index = 0 then .ok none else ofRun .symbol (run.take index) line⟩

def run (group : CharClass) (first : Char) (rest : List Char) : Lexeme :=
  let others := rest.takeWhile (CharClass.ofChar · == group)
  ⟨others.length, ofRun group (first :: others)⟩

def read (first : Char) (rest : List Char) : Lexeme :=
  match CharClass.ofChar first with
  | .blank => ⟨0, fun _ => .ok none⟩
  | .quote => string rest
  | .bracket kind => ⟨0, fun line => .ok (some ⟨kind, none, line⟩)⟩
  | .symbol => symbols (first :: rest)
  | .letter => run .letter first rest
  | .numeric => run .numeric first rest

end Lexeme

/-- The tokens of the characters that come after `before`. -/
def munch (before : List Char) : List Char → Except Fault (List Token)
  | [] => .ok []
  | first :: rest => do
      let lexeme := Lexeme.read first rest
      let found ← lexeme.outcome (lineFollowing before)
      let tokens ← munch (before ++ first :: rest.take lexeme.more) (rest.drop lexeme.more)
      return found.toList ++ tokens
termination_by chars => chars.length

theorem munch_lexeme {first : Char} {others rest : List Char} {lexeme : Lexeme}
    (read : Lexeme.read first (others ++ rest) = lexeme) (size : lexeme.more = others.length)
    (before : List Char) :
    munch before (first :: others ++ rest) =
      lexeme.outcome (lineFollowing before) >>= fun found =>
        munch (before ++ first :: others) rest >>= fun tokens => .ok (found.toList ++ tokens) := by
  rw [List.cons_append, munch, read, size, List.take_left, List.drop_left]
  rfl

theorem munch_cons_eq_ok {before rest : List Char} {first : Char} {tokens : List Token}
    (munched : munch before (first :: rest) = .ok tokens) :
    ∃ found others, (Lexeme.read first rest).outcome (lineFollowing before) = .ok found ∧
      munch (before ++ first :: rest.take (Lexeme.read first rest).more)
        (rest.drop (Lexeme.read first rest).more) = .ok others ∧
      tokens = found.toList ++ others := by
  rw [munch] at munched
  cases made : (Lexeme.read first rest).outcome (lineFollowing before) with
  | error fault =>
      rw [made] at munched
      cases munched
  | ok found =>
      rw [made] at munched
      cases tail : munch (before ++ first :: rest.take (Lexeme.read first rest).more)
          (rest.drop (Lexeme.read first rest).more) with
      | error fault =>
          simp only [tail] at munched
          cases munched
      | ok others =>
          simp only [tail] at munched
          cases munched
          exact ⟨found, others, rfl, rfl, rfl⟩

namespace CharClass

theorem ofChar_of_bracket {c : Char} {kind : Kind} (found : bracket? c = some kind) :
    ofChar c = .bracket kind := by
  unfold bracket? at found
  split at found
  all_goals first
    | cases found
      decide
    | cases found

theorem bracket_of_ofChar {c : Char} {kind : Kind} (found : ofChar c = .bracket kind) :
    bracket? c = some kind := by
  unfold ofChar at found
  split at found
  · cases found
  · split at found
    · cases found
    · split at found
      · cases found
      · cases same : bracket? c with
        | some other =>
            rw [same] at found
            cases found
            rfl
        | none =>
            rw [same] at found
            dsimp only at found
            split at found <;> cases found

end CharClass

namespace Scanner

def complete (scanner : Scanner) (chars : List Char) : Except Fault (List Token) := do
  let reached ← chars.foldlM step scanner
  let last ← reached.finish
  return last.reversed.reverse

theorem scan_eq_complete (source : String) :
    scan source = ({} : Scanner).complete source.toList := by
  unfold scan scanChars complete
  cases source.toList.foldlM step {} with
  | error fault => rfl
  | ok reached =>
      change reached.finish.map _ = reached.finish >>= fun last => pure last.reversed.reverse
      cases reached.finish <;> rfl

variable {line start : Nat} {reversed : List Token} {rest : List Char}

theorem complete_cons (scanner : Scanner) (c : Char) (rest : List Char) :
    scanner.complete (c :: rest) = scanner.step c >>= fun next => next.complete rest := by
  simp [complete, List.foldlM_cons]

theorem complete_of_step {scanner next : Scanner} {c : Char} (steps : scanner.step c = .ok next) :
    scanner.complete (c :: rest) = next.complete rest := by
  rw [complete_cons, steps]
  rfl

theorem lineAfter_eq (scanner : Scanner) (c : Char) :
    scanner.lineAfter c = scanner.line + [c].count '\n' := by
  unfold lineAfter
  by_cases newline : c = '\n' <;> simp [newline]

theorem step_between (c : Char) :
    step ⟨.between, line, start, reversed⟩ c =
      enter ⟨.between, line + [c].count '\n', line, reversed⟩ (.ofChar c) [c] := by
  unfold step
  rw [lineAfter_eq]

theorem flush_run {group : CharClass} {held : List Char} :
    flush ⟨.run group held, line, start, reversed⟩ =
      ofRun group held.reverse start >>= fun found =>
        .ok ⟨.between, line, start, found.toList ++ reversed⟩ := by
  unfold flush
  rcases made : ofRun group held.reverse start with fault | _ | token <;> simp [made] <;> rfl

theorem complete_run_end {group : CharClass} {held : List Char}
    (ends : ∀ c, rest.head? = some c → ¬ (group = .ofChar c ∧ CharClass.bracket? c = none)) :
    complete ⟨.run group held, line, start, reversed⟩ rest =
      ofRun group held.reverse start >>= fun found =>
        complete ⟨.between, line, start, found.toList ++ reversed⟩ rest := by
  cases rest with
  | nil =>
      change (flush ⟨.run group held, line, start, reversed⟩ >>= fun last =>
        pure last.reversed.reverse) = _
      rw [flush_run, bind_assoc]
      rfl
  | cons c rest =>
      have stops : ¬ (group == .ofChar c && CharClass.bracket? c == none) = true := by
        simpa using ends c rfl
      -- The character that ends the run is read on as if it stood between lexemes.
      have turns : step ⟨.run group held, line, start, reversed⟩ c =
          ofRun group held.reverse start >>= fun found =>
            step ⟨.between, line, start, found.toList ++ reversed⟩ c := by
        unfold step
        dsimp only
        rw [if_neg stops, flush_run]
        cases ofRun group held.reverse start <;> rfl
      rw [complete_cons, turns, bind_assoc]
      simp only [complete_cons]

def Gathers (group : CharClass) : Prop :=
  group = .letter ∨ group = .numeric ∨ group = .symbol

def Doubled (chars : List Char) : Prop :=
  ∃ before after, chars = before ++ '/' :: '/' :: after

theorem bracket_of_gathers {c : Char} (gathers : Gathers (.ofChar c)) :
    CharClass.bracket? c = none := by
  cases found : CharClass.bracket? c with
  | none => rfl
  | some kind =>
      rw [CharClass.ofChar_of_bracket found] at gathers
      rcases gathers with other | other | other <;> cases other

theorem enter_run {scanner : Scanner} {group : CharClass} {held : List Char}
    (gathers : Gathers group) (single : group = .symbol → ¬ Doubled held.reverse) :
    enter scanner group held = .ok { scanner with mode := .run group held } := by
  unfold enter
  rcases gathers with rfl | rfl | rfl
  · rfl
  · rfl
  · split
    next other => cases other
    next other => cases other
    next doubled => exact absurd ⟨_, [], by simp; rfl⟩ (single rfl)
    next => rfl

theorem complete_extend {group : CharClass} (gathers : Gathers group) (more : List Char)
    (same : ∀ c ∈ more, CharClass.ofChar c = group) (line : Nat) (held : List Char)
    (single : group = .symbol → ¬ Doubled (held.reverse ++ more)) :
    complete ⟨.run group held, line, start, reversed⟩ (more ++ rest) =
      complete ⟨.run group (more.reverse ++ held), line + more.count '\n', start, reversed⟩
        rest := by
  induction more generalizing held line with
  | nil => rfl
  | cons c more ih =>
      have ofClass : CharClass.ofChar c = group := same c (by simp)
      have noBracket : CharClass.bracket? c = none :=
        bracket_of_gathers (ofClass ▸ gathers)
      have goesOn : (group == .ofChar c && CharClass.bracket? c == none) = true := by
        simp [ofClass, noBracket]
      have singleNow : group = .symbol → ¬ Doubled (c :: held).reverse := by
        rintro symbol ⟨before, after, split⟩
        refine single symbol ⟨before, after ++ more, ?_⟩
        rw [List.reverse_cons] at split
        rw [← List.singleton_append, ← List.append_assoc, split]
        simp
      have steps : step ⟨.run group held, line, start, reversed⟩ c =
          .ok ⟨.run group (c :: held), line + [c].count '\n', start, reversed⟩ := by
        unfold step
        dsimp only
        rw [if_pos goesOn, enter_run gathers singleNow, lineAfter_eq]
      have others := ih (fun other member => same other (by simp [member]))
        (line + [c].count '\n') (c :: held) (by simpa using single)
      rw [List.cons_append, complete_of_step steps, others, List.reverse_cons,
        List.append_assoc, List.singleton_append, Nat.add_assoc, ← List.count_append,
        List.singleton_append]

theorem ofChar_slash : CharClass.ofChar '/' = .symbol := by
  decide +kernel

theorem enter_slashes {scanner : Scanner} {held : List Char} :
    enter scanner .symbol ('/' :: '/' :: held) =
      flush { scanner with mode := .run .symbol held } >>= fun flushed =>
        .ok { flushed with mode := .comment } := by
  cases flushed : flush { scanner with mode := .run .symbol held } with
  | error fault => simp only [enter, flushed]; rfl
  | ok next => simp only [enter, flushed]; rfl

theorem complete_slash {held : List Char} :
    complete ⟨.run .symbol ('/' :: held), line, start, reversed⟩ ('/' :: rest) =
      ofRun .symbol held.reverse start >>= fun found =>
        complete ⟨.comment, line, start, found.toList ++ reversed⟩ rest := by
  have steps : step ⟨.run .symbol ('/' :: held), line, start, reversed⟩ '/' =
      ofRun .symbol held.reverse start >>= fun found =>
        .ok ⟨.comment, line, start, found.toList ++ reversed⟩ := by
    have goesOn : (CharClass.symbol == .ofChar '/' && CharClass.bracket? '/' == none) = true := by
      rw [ofChar_slash]
      rfl
    unfold step
    dsimp only
    rw [if_pos goesOn, enter_slashes, flush_run, bind_assoc, lineAfter_eq]
    rfl
  rw [complete_cons, steps, bind_assoc]
  rfl

theorem complete_comment (line : Nat) (rest : List Char) :
    complete ⟨.comment, line, start, reversed⟩ rest =
      complete ⟨.between,
          line + (rest.take ((rest.takeWhile (· != '\n')).length + 1)).count '\n',
          start, reversed⟩
        (rest.drop ((rest.takeWhile (· != '\n')).length + 1)) := by
  induction rest generalizing line with
  | nil => rfl
  | cons c rest ih =>
      have steps : step ⟨.comment, line, start, reversed⟩ c =
          .ok ⟨if c == '\n' then .between else .comment, line + [c].count '\n', start,
            reversed⟩ := by
        unfold step
        dsimp only
        rw [lineAfter_eq]
      rw [complete_of_step steps]
      by_cases newline : c = '\n'
      · subst newline
        simp
      · simp only [newline, beq_iff_eq, if_false]
        rw [ih]
        simp [newline]

def closesAfter (read chars : List Char) (index : Nat) : Bool :=
  chars[index]? == some '\"' && trailingBackslashes (read ++ chars.take index) % 2 == 0

theorem find_closes_cons (read : List Char) (c : Char) (chars : List Char) :
    (List.range (c :: chars).length).find? (closesAfter read (c :: chars)) =
      if c == '\"' && closes read.reverse then some 0
      else ((List.range chars.length).find? (closesAfter (read ++ [c]) chars)).map (· + 1) := by
  have here : closesAfter read (c :: chars) 0 = (c == '\"' && closes read.reverse) := by
    simp [closesAfter, closes, trailingBackslashes]
  have later : closesAfter read (c :: chars) ∘ Nat.succ = closesAfter (read ++ [c]) chars := by
    funext index
    simp [closesAfter]
  rw [List.length_cons, List.range_succ_eq_map, List.find?_cons, here, List.find?_map, later]
  cases c == '\"' && closes read.reverse <;> rfl

theorem complete_string (rest : List Char) (line : Nat) (held : List Char) :
    complete ⟨.string held, line, start, reversed⟩ rest =
      match (List.range rest.length).find? (closesAfter held.reverse rest) with
      | some length =>
          complete ⟨.between, line + (rest.take (length + 1)).count '\n', start,
              ⟨.string, some (.text (String.ofList (unescape (held.reverse ++ rest.take length)))),
                start⟩ :: reversed⟩
            (rest.drop (length + 1))
      | none => .error { cause := .unterminatedString, line := some start } := by
  induction rest generalizing line held with
  | nil => rfl
  | cons c rest ih =>
      rw [find_closes_cons, List.reverse_reverse]
      by_cases ends : (c == '\"' && closes held) = true
      · have quote : c = '\"' := by
          simp only [Bool.and_eq_true, beq_iff_eq] at ends
          exact ends.1
        have steps : step ⟨.string held, line, start, reversed⟩ c =
            .ok ⟨.between, line, start,
              ⟨.string, some (.text (String.ofList (unescape held.reverse))), start⟩ ::
                reversed⟩ := by
          unfold step
          dsimp only
          rw [if_pos ends]
        rw [if_pos ends, complete_of_step steps, quote]
        simp
      · have steps : step ⟨.string held, line, start, reversed⟩ c =
            .ok ⟨.string (c :: held), line + [c].count '\n', start, reversed⟩ := by
          unfold step
          dsimp only
          rw [if_neg ends, lineAfter_eq]
        rw [if_neg ends, complete_of_step steps, ih, List.reverse_cons]
        cases (List.range rest.length).find? (closesAfter (held.reverse ++ [c]) rest) with
        | none => rfl
        | some length =>
            have lines : line + [c].count '\n' + (rest.take (length + 1)).count '\n' =
                line + ((c :: rest).take (length + 1 + 1)).count '\n' := by
              rw [List.take_succ_cons, Nat.add_assoc, ← List.count_append, List.singleton_append]
            simp only [Option.map_some, lines, List.take_succ_cons, List.drop_succ_cons,
              List.append_assoc, List.singleton_append]

def Takes (lexeme : Lexeme) (first : Char) (rest : List Char) : Prop :=
  ∀ line start reversed, complete ⟨.between, line, start, reversed⟩ (first :: rest) =
    lexeme.outcome line >>= fun found =>
      complete ⟨.between, line + (first :: rest.take lexeme.more).count '\n', line,
        found.toList ++ reversed⟩ (rest.drop lexeme.more)

variable {first : Char}

theorem takes_blank (blank : CharClass.ofChar first = .blank) :
    Takes ⟨0, fun _ => .ok none⟩ first rest := by
  intro line start reversed
  have steps : step ⟨.between, line, start, reversed⟩ first =
      .ok ⟨.between, line + [first].count '\n', line, reversed⟩ := by
    rw [step_between, blank]
    rfl
  exact complete_of_step steps

theorem takes_string (quote : CharClass.ofChar first = .quote) :
    Takes (.string rest) first rest := by
  intro line start reversed
  have steps : step ⟨.between, line, start, reversed⟩ first =
      .ok ⟨.string [], line + [first].count '\n', line, reversed⟩ := by
    rw [step_between, quote]
    rfl
  rw [complete_of_step steps, complete_string]
  have body : (List.range rest.length).find? (closesAfter [] rest) = bodyLength? rest := rfl
  rw [List.reverse_nil, body, Lexeme.string]
  cases bodyLength? rest with
  | none => rfl
  | some length =>
      have lines : line + [first].count '\n' + (rest.take (length + 1)).count '\n' =
          line + (first :: rest.take (length + 1)).count '\n' := by
        rw [Nat.add_assoc, ← List.count_append, List.singleton_append]
      simp only [lines, List.nil_append]
      rfl

theorem takes_bracket {kind : Kind} (bracket : CharClass.ofChar first = .bracket kind) :
    Takes ⟨0, fun line => .ok (some ⟨kind, none, line⟩)⟩ first rest := by
  intro line start reversed
  have steps : step ⟨.between, line, start, reversed⟩ first =
      .ok ⟨.run (.bracket kind) [first], line + [first].count '\n', line, reversed⟩ := by
    rw [step_between, bracket]
    rfl
  rw [complete_of_step steps, complete_run_end]
  · rfl
  · rintro c - ⟨same, noBracket⟩
    rw [CharClass.bracket_of_ofChar same.symm] at noBracket
    cases noBracket

theorem not_doubled_singleton (c : Char) : ¬ Doubled [c] := by
  rintro ⟨before, after, split⟩
  have short := congrArg List.length split
  simp only [List.length_append, List.length_cons, List.length_nil] at short
  omega

theorem step_gathers {group : CharClass} (same : CharClass.ofChar first = group)
    (gathers : Gathers group) :
    step ⟨.between, line, start, reversed⟩ first =
      .ok ⟨.run group [first], line + [first].count '\n', line, reversed⟩ := by
  have single : group = .symbol → ¬ Doubled [first].reverse :=
    fun _ => not_doubled_singleton first
  rw [step_between, same, enter_run gathers single]

theorem complete_gathered {group : CharClass} (gathers : Gathers group) {others : List Char}
    (same : ∀ c ∈ first :: others, CharClass.ofChar c = group)
    (single : group = .symbol → ¬ Doubled (first :: others)) :
    complete ⟨.between, line, start, reversed⟩ (first :: (others ++ rest)) =
      complete ⟨.run group (first :: others).reverse, line + (first :: others).count '\n', line,
        reversed⟩ rest := by
  rw [complete_of_step (step_gathers (same first (by simp)) gathers),
    complete_extend gathers others (fun c member => same c (by simp [member])) _ [first] single,
    List.reverse_cons, Nat.add_assoc, ← List.count_append, List.singleton_append]

theorem take_takeWhile (p : Char → Bool) (chars : List Char) :
    chars.take (chars.takeWhile p).length = chars.takeWhile p :=
  (List.prefix_iff_eq_take.mp (List.takeWhile_prefix p)).symm

theorem drop_takeWhile (p : Char → Bool) (chars : List Char) :
    chars.drop (chars.takeWhile p).length = chars.dropWhile p := by
  have whole := List.take_append_drop (chars.takeWhile p).length chars
  rw [take_takeWhile] at whole
  exact List.append_cancel_left (whole.trans List.takeWhile_append_dropWhile.symm)

theorem takes_run {group : CharClass} (same : CharClass.ofChar first = group)
    (gathers : Gathers group)
    (single : group = .symbol →
      ¬ Doubled (first :: rest.takeWhile (CharClass.ofChar · == group))) :
    Takes (.run group first rest) first rest := by
  intro line start reversed
  have inClass : ∀ c ∈ first :: rest.takeWhile (CharClass.ofChar · == group),
      CharClass.ofChar c = group := by
    intro c member
    rcases List.mem_cons.mp member with rfl | member
    · exact same
    · simpa using List.all_eq_true.mp List.all_takeWhile c member
  have ends : ∀ c, (rest.dropWhile (CharClass.ofChar · == group)).head? = some c →
      ¬ (group = .ofChar c ∧ CharClass.bracket? c = none) := by
    rintro c head ⟨again, -⟩
    have stopped := List.head?_dropWhile_not (CharClass.ofChar · == group) rest
    rw [head] at stopped
    simp [again] at stopped
  have run := @complete_gathered line start reversed
    (rest.dropWhile (CharClass.ofChar · == group)) first group gathers _ inClass single
  rw [List.takeWhile_append_dropWhile] at run
  rw [run, complete_run_end ends, List.reverse_reverse]
  simp only [Lexeme.run, take_takeWhile, drop_takeWhile]

theorem doubled_of_prefix {chars : List Char} {index : Nat}
    (found : ['/', '/'].isPrefixOf (chars.drop index) = true) :
    ∃ after, chars = chars.take index ++ '/' :: '/' :: after := by
  obtain ⟨after, split⟩ := List.isPrefixOf_iff_prefix.mp found
  refine ⟨after, ?_⟩
  rw [show '/' :: '/' :: after = ['/', '/'] ++ after from rfl, split, List.take_append_drop]

theorem not_doubled_of_none {chars : List Char} (noComment : commentStart? chars = none) :
    ¬ Doubled chars := by
  rintro ⟨before, after, split⟩
  have absent := List.find?_range_eq_none.mp noComment before.length
  rw [split] at absent
  simp at absent

theorem commentStart_eq_some {chars : List Char} {index : Nat}
    (found : commentStart? chars = some index) :
    ∃ after, chars = chars.take index ++ '/' :: '/' :: after ∧
      ¬ Doubled (chars.take index ++ ['/']) := by
  obtain ⟨here, inside, earlier⟩ := List.find?_range_eq_some.mp found
  obtain ⟨after, split⟩ := doubled_of_prefix here
  refine ⟨after, split, ?_⟩
  rintro ⟨first, second, doubled⟩
  have sizes := congrArg List.length doubled
  simp only [List.length_append, List.length_take, List.length_cons, List.length_nil] at sizes
  have inside := List.mem_range.mp inside
  have absent := earlier first.length (by omega)
  have same : chars = first ++ '/' :: '/' :: (second ++ '/' :: after) := by
    calc chars = chars.take index ++ ['/'] ++ '/' :: after := by rw [List.append_assoc]; exact split
      _ = first ++ '/' :: '/' :: (second ++ '/' :: after) := by rw [doubled]; simp
  rw [same] at absent
  simp at absent

theorem takes_comment {head text : List Char}
    (split : first :: rest = head ++ '/' :: '/' :: text)
    (symbols : ∀ c ∈ head, CharClass.ofChar c = .symbol) (single : ¬ Doubled (head ++ ['/'])) :
    Takes ⟨head.length + ((text.takeWhile (· != '\n')).length + 2), ofRun .symbol head⟩
      first rest := by
  intro line start reversed
  -- The first slash still belongs to the run that is held, the second one ends it.
  obtain ⟨others, held, ahead⟩ :
      ∃ others, head ++ ['/'] = first :: others ∧ rest = others ++ '/' :: text := by
    cases head with
    | nil =>
        cases split
        exact ⟨[], rfl, rfl⟩
    | cons c head =>
        cases split
        exact ⟨head ++ ['/'], rfl, by simp⟩
  have inClass : ∀ c ∈ first :: others, CharClass.ofChar c = .symbol := by
    intro c member
    rw [← held] at member
    rcases List.mem_append.mp member with inside | slash
    · exact symbols c inside
    · rw [List.mem_singleton.mp slash, ofChar_slash]
  have size : others.length = head.length := by
    have sizes := congrArg List.length held
    simpa using sizes.symm
  have reversedHeld : (first :: others).reverse = '/' :: head.reverse := by
    rw [← held, List.reverse_append]
    rfl
  have taken : rest.take (head.length + ((text.takeWhile (· != '\n')).length + 2)) =
      others ++ '/' :: text.take ((text.takeWhile (· != '\n')).length + 1) := by
    rw [ahead, ← size, List.take_length_add_append]
    rfl
  have dropped : rest.drop (head.length + ((text.takeWhile (· != '\n')).length + 2)) =
      text.drop ((text.takeWhile (· != '\n')).length + 1) := by
    rw [ahead, ← size, List.drop_length_add_append]
    rfl
  have lines (taken : List Char) : line + (first :: others).count '\n' + taken.count '\n' =
      line + (first :: (others ++ '/' :: taken)).count '\n' := by
    rw [← List.cons_append, List.count_append, Nat.add_assoc]
    simp
  dsimp only
  rw [taken, dropped]
  rw [ahead, complete_gathered (.inr (.inr rfl)) inClass (fun _ => held ▸ single), reversedHeld,
    complete_slash, List.reverse_reverse]
  simp only [complete_comment, lines]

theorem takes_symbols (symbol : CharClass.ofChar first = .symbol) :
    Takes (.symbols (first :: rest)) first rest := by
  have begins : (first :: rest).takeWhile (CharClass.ofChar · == .symbol) =
      first :: rest.takeWhile (CharClass.ofChar · == .symbol) := by
    simp [symbol]
  have whole : (first :: rest).takeWhile (CharClass.ofChar · == .symbol) ++
      (first :: rest).dropWhile (CharClass.ofChar · == .symbol) = first :: rest :=
    List.takeWhile_append_dropWhile
  have symbols : ∀ c ∈ (first :: rest).takeWhile (CharClass.ofChar · == .symbol),
      CharClass.ofChar c = .symbol := by
    intro c member
    simpa using List.all_eq_true.mp List.all_takeWhile c member
  unfold Lexeme.symbols
  generalize (first :: rest).takeWhile (CharClass.ofChar · == .symbol) = run at *
  dsimp only
  cases found : commentStart? run with
  | none =>
      have single := not_doubled_of_none found
      subst begins
      exact takes_run symbol (.inr (.inr rfl)) fun _ => single
  | some index =>
      obtain ⟨after, split, single⟩ := commentStart_eq_some found
      have size : (run.take index).length = index := by
        have sizes := congrArg List.length split
        simp only [List.length_append, List.length_take, List.length_cons] at sizes ⊢
        omega
      have ahead : first :: rest = run.take index ++ '/' :: '/' ::
          (after ++ (first :: rest).dropWhile (CharClass.ofChar · == .symbol)) := by
        calc first :: rest
            = run ++ (first :: rest).dropWhile (CharClass.ofChar · == .symbol) := whole.symm
          _ = run.take index ++ '/' :: '/' :: after ++
                (first :: rest).dropWhile (CharClass.ofChar · == .symbol) := by rw [← split]
          _ = _ := by rw [List.append_assoc]; rfl
      have takes := takes_comment ahead
        (fun c member => symbols c (List.mem_of_mem_take member)) single
      have comment : ((first :: rest).drop index).takeWhile (· != '\n') = '/' :: '/' ::
          (after ++ (first :: rest).dropWhile (CharClass.ofChar · == .symbol)).takeWhile
            (· != '\n') := by
        conv => lhs; rw [ahead]
        rw [List.drop_left' size]
        rfl
      have outcome : (fun line => if index = 0 then Except.ok none
          else ofRun .symbol (run.take index) line) = ofRun .symbol (run.take index) := by
        funext line
        cases index <;> rfl
      dsimp only
      rw [comment, outcome, List.length_cons, List.length_cons]
      rw [size] at takes
      exact takes

theorem takes_read (first : Char) (rest : List Char) : Takes (.read first rest) first rest := by
  unfold Lexeme.read
  split
  next blank => exact takes_blank blank
  next quote => exact takes_string quote
  next bracket => exact takes_bracket bracket
  next symbol => exact takes_symbols symbol
  next letter => exact takes_run letter (.inl rfl) nofun
  next numeric => exact takes_run numeric (.inr (.inl rfl)) nofun

theorem complete_eq_munch (before rest : List Char) (start : Nat) (reversed : List Token) :
    complete ⟨.between, lineFollowing before, start, reversed⟩ rest =
      munch before rest >>= fun tokens => .ok (reversed.reverse ++ tokens) := by
  generalize size : rest.length = length
  induction length using Nat.strongRecOn generalizing before rest start reversed with
  | ind length ih =>
      cases rest with
      | nil =>
          rw [munch]
          exact congrArg Except.ok (List.append_nil _).symm
      | cons first rest =>
          have lines (taken : List Char) : lineFollowing before + (first :: taken).count '\n' =
              lineFollowing (before ++ first :: taken) := by
            rw [lineFollowing, lineFollowing, List.count_append, Nat.add_assoc]
          rw [takes_read first rest, munch]
          simp only [lines, bind_assoc]
          refine bind_congr fun found => ?_
          have shorter : (rest.drop (Lexeme.read first rest).more).length < length := by
            rw [← size, List.length_drop, List.length_cons]
            omega
          rw [ih _ shorter _ _ _ _ rfl]
          refine bind_congr fun tokens => ?_
          cases found <;> simp

theorem complete_start (chars : List Char) : ({} : Scanner).complete chars = munch [] chars := by
  have completed := complete_eq_munch [] chars 1 []
  refine completed.trans ?_
  cases munch [] chars <;> rfl

end Scanner

/-- Scanning is maximal munch. -/
theorem scan_eq_munch (source : String) : scan source = munch [] source.toList := by
  have scanned := Scanner.complete_eq_munch [] source.toList 1 []
  rw [Scanner.scan_eq_complete]
  refine scanned.trans ?_
  cases munch [] source.toList <;> rfl

end Scriptlet.Token
