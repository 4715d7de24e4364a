import Scriptlet.Proofs.Evaluation.WordRange
import Scriptlet.Proofs.Grammar.RoundTrip
import Scriptlet.Proofs.Script.Limit
import Scriptlet.Proofs.Script.Pieces
import Scriptlet.Proofs.Token.Writing
import Scriptlet.Value.Render

/-!
Reading printed values back. The text that is printed for arrays and integers is a literal of the
language: the comma after every element is allowed before the closing bracket too, and a minus is
an operator that the evaluation applies. The least integer is the exception. Its digits without the
minus are out of range and wrap around to the least integer again, which cannot be negated.
-/

namespace Scriptlet

open Token Grammar

namespace Value

inductive Integral : Value → Prop
  | int {n : Int} : Number.fitsWord n = true → Integral (int n)
  | array {elements : List Value} :
      (∀ element ∈ elements, Integral element) → Integral (array elements)

mutual

def tokens : Value → List Token
  | int n =>
      if n < 0 then [⟨.operator, some (.text "-"), 1⟩, ⟨.integer, some (.integer (-n)), 1⟩]
      else [⟨.integer, some (.integer n), 1⟩]
  | array elements =>
      ⟨.openBracket, none, 1⟩ :: (tokensAll elements ++ [⟨.closeBracket, none, 1⟩])
  | _ => []

def tokensAll : List Value → List Token
  | [] => []
  | value :: rest => tokens value ++ ⟨.comma, none, 1⟩ :: tokensAll rest

end

mutual

def literal : Value → Node
  | int n => if n < 0 then .unary 1 .subtract (.int 1 (-n)) else .int 1 n
  | array elements => .array 1 (literalAll elements)
  | _ => .bare 1

def literalAll : List Value → List Node
  | [] => []
  | value :: rest => literal value :: literalAll rest

end

section Rendering

theorem renderAll_cons {levels : Nat} {value : Value} {values : List Value} {text : String}
    (rendered : renderAll levels (value :: values) = .ok text) :
    ∃ first others, value.render levels = .ok first ∧ renderAll levels values = .ok others ∧
      text = first ++ ", " ++ others := by
  rw [renderAll] at rendered
  cases head : value.render levels with
  | error obstacle =>
      rw [head] at rendered
      cases rendered
  | ok first =>
      cases tail : renderAll levels values with
      | error obstacle =>
          rw [head, tail] at rendered
          cases rendered
      | ok others =>
          rw [head, tail] at rendered
          cases rendered
          exact ⟨first, others, rfl, rfl, rfl⟩

theorem render_array {levels : Nat} {elements : List Value} {text : String}
    (rendered : (array elements).render levels = .ok text) :
    ∃ less inside, levels = less + 1 ∧ renderAll less elements = .ok inside ∧
      text = "[" ++ inside ++ "]" := by
  cases levels with
  | zero => cases rendered
  | succ levels =>
      rw [render] at rendered
      cases inner : renderAll levels elements with
      | error obstacle =>
          rw [inner] at rendered
          cases rendered
      | ok inside =>
          rw [inner] at rendered
          cases rendered
          exact ⟨levels, inside, rfl, inner, rfl⟩

theorem exists_render_of_mem {levels : Nat} {values : List Value} {text : String}
    (rendered : renderAll levels values = .ok text) {value : Value} (member : value ∈ values) :
    ∃ own, value.render levels = .ok own := by
  induction values generalizing text with
  | nil => cases member
  | cons head values ih =>
      obtain ⟨first, others, firstText, othersText, _⟩ := renderAll_cons rendered
      rcases List.mem_cons.mp member with rfl | later
      · exact ⟨first, firstText⟩
      · exact ih othersText later

theorem exists_renderAll {values : List Value}
    (each : ∀ value ∈ values, ∃ least, ∀ levels, least ≤ levels →
      ∃ text, value.render levels = .ok text) :
    ∃ least, ∀ levels, least ≤ levels → ∃ text, renderAll levels values = .ok text := by
  induction values with
  | nil => exact ⟨0, fun _ _ => ⟨"", rfl⟩⟩
  | cons value values ih =>
      obtain ⟨firstLeast, first⟩ := each value (by simp)
      obtain ⟨othersLeast, others⟩ := ih fun other member => each other (by simp [member])
      refine ⟨max firstLeast othersLeast, fun levels enough => ?_⟩
      obtain ⟨text, firstText⟩ := first levels (by omega)
      obtain ⟨more, othersText⟩ := others levels (by omega)
      refine ⟨text ++ ", " ++ more, ?_⟩
      rw [renderAll, firstText, othersText]

theorem Integral.exists_render {value : Value} (integral : value.Integral) :
    ∃ least, ∀ levels, least ≤ levels → ∃ text, value.render levels = .ok text := by
  induction integral with
  | int fits => exact ⟨0, fun _ _ => ⟨_, rfl⟩⟩
  | array _ ih =>
      obtain ⟨least, inner⟩ := exists_renderAll ih
      refine ⟨least + 1, fun levels enough => ?_⟩
      obtain ⟨less, rfl⟩ : ∃ less, levels = less + 1 := ⟨levels - 1, by omega⟩
      obtain ⟨inside, rendered⟩ := inner less (by omega)
      refine ⟨"[" ++ inside ++ "]", ?_⟩
      rw [render, rendered]

end Rendering

section Lexing

variable {rest : List Char}

theorem written_int {n : Int} (fits : Number.fitsWord n = true)
    (ends : ∀ c, rest.head? = some c → CharClass.ofChar c ≠ .numeric) :
    Written (toString n).toList (int n).tokens rest := by
  have greatest : integerMax = 18446744073709551615 := rfl
  rw [Number.fitsWord_iff] at fits
  rw [Int.toString_eq_repr, Int.repr_eq_if, tokens]
  by_cases negative : n < 0
  · have size : ((-n).toNat : Int) = -n := Int.toNat_of_nonneg (by omega)
    have digits := @written_natural rest (-n).toNat (by omega) ends
    have minus : Written ['-'] [⟨.operator, some (.text "-"), 1⟩]
        (Nat.toDigits 10 (-n).toNat ++ rest) := by
      refine written_symbol (by decide +kernel) rfl fun c head => ?_
      rw [head_toDigits _ head]
      decide
    rw [size] at digits
    rw [if_pos negative, if_neg (by omega), String.toList_append, Nat.toList_repr]
    exact minus.append digits
  · have size : (n.toNat : Int) = n := Int.toNat_of_nonneg (by omega)
    have digits := @written_natural rest n.toNat (by omega) ends
    rw [if_neg negative, if_pos (by omega), Nat.toList_repr]
    rwa [size] at digits

theorem written_renderAll {values : List Value} {levels : Nat} {text : String}
    (each : ∀ value ∈ values, ∀ (levels : Nat) (text : String) (rest : List Char),
      value.render levels = .ok text →
      (∀ c, rest.head? = some c → CharClass.ofChar c ≠ .numeric) →
      Written text.toList value.tokens rest)
    (rendered : renderAll levels values = .ok text) :
    Written text.toList (tokensAll values) rest := by
  induction values generalizing text with
  | nil =>
      cases rendered
      exact written_nil
  | cons value values ih =>
      obtain ⟨first, others, firstText, othersText, rfl⟩ := renderAll_cons rendered
      have comma : CharClass.ofChar ',' = .symbol := by decide +kernel
      have space : CharClass.ofChar ' ' = .blank := by decide +kernel
      have tail := ih (fun other member => each other (by simp [member])) othersText
      have separator : Written [','] [⟨.comma, none, 1⟩] (' ' :: (others.toList ++ rest)) := by
        refine written_symbol comma rfl fun c head => ?_
        cases head
        rw [space]
        decide
      have head := each value (by simp) levels first (',' :: ' ' :: (others.toList ++ rest))
        firstText fun c head => by
          cases head
          rw [comma]
          decide
      have whole := head.append (separator.append (written_space.append tail))
      simpa [tokensAll] using whole

theorem Integral.written {value : Value} (integral : value.Integral) (levels : Nat)
    (text : String) (rest : List Char) (rendered : value.render levels = .ok text)
    (ends : ∀ c, rest.head? = some c → CharClass.ofChar c ≠ .numeric) :
    Written text.toList value.tokens rest := by
  induction integral generalizing levels text rest with
  | int fits =>
      cases rendered
      exact written_int fits ends
  | array _ ih =>
      obtain ⟨less, inside, rfl, inner, rfl⟩ := render_array rendered
      have opens : CharClass.ofChar '[' = .bracket .openBracket := by decide +kernel
      have closes : CharClass.ofChar ']' = .bracket .closeBracket := by decide +kernel
      have body := @written_renderAll (']' :: rest) _ less inside ih inner
      have whole := (written_bracket opens).append (body.append (written_bracket closes))
      simpa [tokens] using whole

end Lexing

section Parsing

variable {rest : List Token}

theorem reading_literalAll {values : List Value}
    (each : ∀ value ∈ values, ∀ rest, Settled 0 rest →
      Reading (.expression 0 value.literal) (value.tokens ++ rest) rest) (line : Nat) :
    Reading (.items .closeBracket (literalAll values))
      (tokensAll values ++ ⟨.closeBracket, none, line⟩ :: rest)
      (⟨.closeBracket, none, line⟩ :: rest) := by
  induction values with
  | nil => exact .noItem (.inr rfl)
  | cons value values ih =>
      have tail := ih fun other member => each other (by simp [member])
      have head := each value (by simp) (⟨.comma, none, 1⟩ ::
        (tokensAll values ++ ⟨.closeBracket, none, line⟩ :: rest)) (settled_of_kind_ne (by simp))
      rw [tokensAll, List.append_assoc, List.cons_append]
      exact .item (head.leads_expression rfl) head tail

theorem Integral.reading {value : Value} (integral : value.Integral) (rest : List Token)
    (settled : Settled 0 rest) :
    Reading (.expression 0 value.literal) (value.tokens ++ rest) rest := by
  induction integral generalizing rest with
  | @int n _ =>
      rw [literal, tokens]
      by_cases negative : n < 0
      · rw [if_pos negative, if_pos negative]
        have operand : Reading (.expression Operator.unaryPrecedence (.int 1 (-n)))
            (⟨.integer, some (.integer (-n)), 1⟩ :: rest) rest :=
          .expression (.int rfl rfl) (.settle (settled_unary rest))
        exact .expression (.unary rfl rfl rfl operand) (.settle settled)
      · rw [if_neg negative, if_neg negative]
        exact .expression (.int rfl rfl) (.settle settled)
  | @array elements _ ih =>
      have items := @reading_literalAll rest elements ih 1
      rw [tokens, List.cons_append, List.append_assoc]
      exact .expression (.array (.bracketed rfl items rfl)) (.settle settled)

end Parsing

end Value

theorem Number.wrapWord_of_fits {n : Int} (fits : fitsWord n = true) : wrapWord n = n := by
  have size : Nat.pow 2 64 = 18446744073709551616 := rfl
  rw [fitsWord_iff] at fits
  rw [wrapWord, size]
  exact Int.bmod_eq_of_le (by omega) (by omega)

namespace Node

def negationStop (file : String) : Stop :=
  .fault { cause := .integerOverflow .subtract, line := some 1, file := some file }

inductive Recovered {α : Type} (file : String) (held : List Value) (meant : α) :
    Except Stop α → Prop
  | value : .int Number.wordMin ∉ held → Recovered file held meant (.ok meant)
  | stop : .int Number.wordMin ∈ held → Recovered file held meant (.error (negationStop file))

/-- An evaluation that recovers what is meant, or runs out of levels if it is `short` of them. -/
def Recovers {α : Type} (file : String) (held : List Value) (meant : α) (short : Prop)
    (action : Eval α) : Prop :=
  ∀ machine, (short ∧ action.outcome machine = (.error .overflow, machine)) ∨
    ∃ result, Recovered file held meant result ∧ action.outcome machine = (result, machine)

variable {setting : Setting}

theorem evaluate_negative {n : Int} (fits : Number.fitsWord n = true) (negative : n < 0)
    (depth : Nat) (machine : Machine) :
    ∃ result, Recovered setting.file [.int n] (.int n) result ∧
      ((unary 1 .subtract (.int 1 (-n))).evaluate setting (depth + 2)).outcome machine =
        (result, machine) := by
  have least : Number.wordMin = -9223372036854775808 := rfl
  have opened : ((unary 1 .subtract (.int 1 (-n))).evaluate setting (depth + 2)).outcome machine =
      (setting.located 1 (Value.checked .subtract (-(Number.wrapWord (-n))))).outcome machine :=
    rfl
  rw [opened]
  by_cases extreme : n = Number.wordMin
  · subst extreme
    exact ⟨_, .stop (by simp), rfl⟩
  · have held : .int Number.wordMin ∉ [Value.int n] := by
      simpa using fun same => extreme same.symm
    have small : Number.fitsWord (-n) = true := by
      rw [Number.fitsWord_iff] at fits ⊢
      omega
    refine ⟨_, .value held, ?_⟩
    rw [Number.wrapWord_of_fits small, Int.neg_neg, Value.checked, if_pos fits]
    rfl

theorem evaluateAll_recovers {values : List Value} {short : Prop} {step : Node → Eval Value}
    (each : ∀ value ∈ values,
      Recovers setting.file value.leaves value short (step value.literal)) :
    Recovers setting.file (Value.leavesAll values) values short
      (evaluateAll step (Value.literalAll values)) := by
  induction values with
  | nil => exact fun machine => .inr ⟨_, .value (by simp [Value.leavesAll]), rfl⟩
  | cons value values ih =>
      intro machine
      have tail := ih fun other member => each other (by simp [member])
      rw [Value.literalAll, evaluateAll, Eval.outcome_bind]
      rcases each value (by simp) machine with ⟨isShort, ended⟩ | ⟨result, recovered, ended⟩
      · rw [ended]
        exact .inl ⟨isShort, rfl⟩
      · rw [ended]
        cases recovered with
        | stop holds => exact .inr ⟨_, .stop (by simp [Value.leavesAll, holds]), rfl⟩
        | value free =>
            rw [Eval.andThen, Eval.outcome_bind]
            rcases tail machine with ⟨isShort, ended⟩ | ⟨result, recovered, ended⟩
            · rw [ended]
              exact .inl ⟨isShort, rfl⟩
            · rw [ended]
              cases recovered with
              | stop holds => exact .inr ⟨_, .stop (by simp [Value.leavesAll, holds]), rfl⟩
              | value others =>
                  exact .inr ⟨_, .value (by simp [Value.leavesAll, free, others]), rfl⟩

theorem evaluate_literal_recovers {value : Value} (integral : value.Integral) (levels depth : Nat)
    (text : String) (rendered : value.render levels = .ok text) :
    Recovers setting.file value.leaves value (depth < levels + 2)
      (value.literal.evaluate setting depth) := by
  induction integral generalizing levels depth text with
  | @int n fits =>
      intro machine
      rw [Value.literal]
      by_cases negative : n < 0
      · rw [if_pos negative]
        match depth with
        | 0 | 1 => exact .inl ⟨by omega, rfl⟩
        | depth + 2 => exact .inr (evaluate_negative fits negative depth machine)
      · rw [if_neg negative]
        match depth with
        | 0 => exact .inl ⟨by omega, rfl⟩
        | depth + 1 =>
            have least : Number.wordMin = -9223372036854775808 := rfl
            have held : .int Number.wordMin ∉ (Value.int n).leaves := by
              simp only [Value.leaves, List.mem_singleton, Value.int.injEq]
              omega
            refine .inr ⟨_, .value held, ?_⟩
            rw [evaluate, evaluateLevel, Number.wrapWord_of_fits fits]
            rfl
  | @array elements _ ih =>
      obtain ⟨less, inside, rfl, inner, _⟩ := Value.render_array rendered
      intro machine
      match depth with
      | 0 => exact .inl ⟨by omega, rfl⟩
      | depth + 1 =>
          have each : ∀ value ∈ elements, Recovers setting.file value.leaves value
              (depth < less + 2) (value.literal.evaluate setting depth) := by
            intro value member
            obtain ⟨own, ownText⟩ := Value.exists_render_of_mem inner member
            exact ih value member less depth own ownText
          have opened : ((Value.array elements).literal.evaluate setting (depth + 1)).outcome
              machine = Eval.andThen ((evaluateAll (evaluate setting depth)
                (Value.literalAll elements)).outcome machine)
                fun values => pure (.array values) :=
            Eval.outcome_bind _ _ _
          rw [opened, Value.leaves]
          rcases evaluateAll_recovers each machine with ⟨isShort, ended⟩ | ⟨result, recovered, ended⟩
          · rw [ended]
            exact .inl ⟨by omega, rfl⟩
          · rw [ended]
            cases recovered with
            | value free => exact .inr ⟨_, .value free, rfl⟩
            | stop holds => exact .inr ⟨_, .stop holds, rfl⟩

theorem evaluate_define {name : String} {value : Node} {held : List Value} {meant : Value}
    {short : Prop} {depth : Nat}
    (recovers : Recovers setting.file held meant short (value.evaluate setting depth))
    {machine : Machine} (unbound : machine.scope.values.contains name = false) :
    let ended := ((sequence 1 [assign 1 name .define value]).evaluate setting (depth + 2)).outcome
      machine
    (short ∧ ended = (.error .overflow, machine)) ∨
    (.int Number.wordMin ∉ held ∧ ended =
      (.ok .invalid, { machine with scope := machine.scope.setVariable name meant })) ∨
    (.int Number.wordMin ∈ held ∧ ended = (.error (negationStop setting.file), machine)) := by
  intro ended
  have opened : ended = Eval.andThen ((evaluateSequence (evaluate setting (depth + 1))
      [assign 1 name .define value]).outcome machine) fun _ => pure .invalid :=
    Eval.outcome_bind _ _ _
  have assigned : ((assign 1 name .define value).evaluate setting (depth + 1)).outcome machine =
      Eval.andThen (Eval.andThen ((value.evaluate setting depth).outcome machine) fun result =>
        Eval.modifyScope (·.setVariable name result)) fun _ => pure .invalid := by
    rw [evaluate, evaluateLevel, Eval.outcome_bind, evaluateAssign, Eval.outcome_bind,
      Eval.outcome_scope, Eval.andThen, unbound]
    exact congrArg (Eval.andThen · _) (Eval.outcome_bind _ _ _)
  rw [evaluateSequence, Eval.outcome_bind, assigned] at opened
  rcases recovers machine with ⟨isShort, stopped⟩ | ⟨result, recovered, stopped⟩
  · rw [stopped] at opened
    exact .inl ⟨isShort, opened⟩
  · rw [stopped] at opened
    cases recovered with
    | stop holds => exact .inr (.inr ⟨holds, opened⟩)
    | value free =>
        refine .inr (.inl ⟨free, opened.trans ?_⟩)
        simp only [Eval.andThen, Eval.outcome_bind, Eval.outcome_modifyScope, Eval.outcome_pure,
          Eval.outcome_scope, evaluateSequence, ite_self]

end Node

namespace Script

def define (bounds : Bounds) (file text : String) : Ending Value × Machine :=
  run bounds file ("x := " ++ text ++ ";") {}

def defineTokens (value : Value) : List Token :=
  ⟨.identifier, some (.text "x"), 1⟩ :: ⟨.define, none, 1⟩ ::
    (value.tokens ++ [⟨.semicolon, none, 1⟩])

theorem scan_define {value : Value} (integral : value.Integral) {levels : Nat} {text : String}
    (rendered : value.render levels = .ok text) :
    Token.scan ("x := " ++ text ++ ";") = .ok (defineTokens value) := by
  have letter : CharClass.ofChar 'x' = .letter := by decide +kernel
  have blank : CharClass.ofChar ' ' = .blank := by decide +kernel
  have colon : CharClass.ofChar ':' = .symbol := by decide +kernel
  have equals : CharClass.ofChar '=' = .symbol := by decide +kernel
  have semicolon : CharClass.ofChar ';' = .symbol := by decide +kernel
  have last : Written [';'] [⟨.semicolon, none, 1⟩] [] :=
    written_symbol semicolon rfl nofun
  have body : Written text.toList value.tokens ([';'] ++ []) := by
    refine integral.written levels text _ rendered fun c head => ?_
    cases head
    rw [semicolon]
    decide
  have sign : Written [':', '='] [⟨.define, none, 1⟩]
      ([' '] ++ (text.toList ++ [';']) ++ []) := by
    have signs : ∀ c ∈ [':', '='], CharClass.ofChar c = .symbol :=
      List.forall_mem_cons.mpr ⟨colon, List.forall_mem_singleton.mpr equals⟩
    refine written_run signs (fun c head => ?_) (.inr (.inr rfl)) (fun _ => by decide) rfl
    cases head
    rw [blank]
    decide
  have name : Written ['x'] [⟨.identifier, some (.text "x"), 1⟩]
      ([' '] ++ ([':', '='] ++ ([' '] ++ (text.toList ++ [';']))) ++ []) := by
    refine written_run (fun c member => ?_) (fun c head => ?_) (.inl rfl) nofun rfl
    · rw [List.mem_singleton.mp member]
      exact letter
    · cases head
      rw [blank]
      decide
  have whole := name.append (written_space.append (sign.append (written_space.append
    (body.append last))))
  refine scan_of_written ?_
  simpa [defineTokens] using whole

theorem reading_define {value : Value} (integral : value.Integral) :
    Reading (.statements [.assign 1 "x" .define value.literal]) (defineTokens value) [] := by
  have body := integral.reading [⟨.semicolon, none, 1⟩] (settled_of_kind_ne (by simp))
  have named : Token.Named ⟨.identifier, some (.text "x"), 1⟩ "x" := ⟨rfl, rfl⟩
  have defines : assignmentForm? ⟨.define, none, 1⟩ = some .define := rfl
  have statement : Reading (.statement (.assign 1 "x" .define value.literal))
      (defineTokens value) [] :=
    .assignment named defines body rfl
  exact .statements rfl statement (.noStatement (.inl rfl))

theorem read_define {value : Value} (integral : value.Integral) {levels : Nat} {text : String}
    (rendered : value.render levels = .ok text) {limit : Nat} {file : String}
    (within : Node.WithinLimit limit (defineTokens value) (some file)) :
    (read limit file ("x := " ++ text ++ ";")).1 =
      .ok ⟨defineTokens value, .sequence 1 [.assign 1 "x" .define value.literal]⟩ := by
  rw [read_of_scan (scan_define integral rendered),
    Node.parse_of_reading (reading_define integral) within]
  rfl

section Define

variable {value : Value} (integral : value.Integral) {levels : Nat} {text : String}
  (rendered : value.render levels = .ok text) {bounds : Bounds} {file : String}

include integral rendered

theorem define_of_within
    (within : Node.WithinLimit bounds.limit (defineTokens value) (some file)) :
    (bounds.limit < levels + 4 ∧ (define bounds file text).1.cutOff = true) ∨
    (.int Number.wordMin ∉ value.leaves ∧ (define bounds file text).1 = .finished .invalid ∧
      (define bounds file text).2.scope = ({} : Scope).setVariable "x" value) ∨
    (.int Number.wordMin ∈ value.leaves ∧ (define bounds file text).1 =
      .failed { cause := .integerOverflow .subtract, line := some 1, file := some file } ∧
      (define bounds file text).2.scope = {}) := by
  obtain ⟨machine, scope, _, ran⟩ := run_of_read (read_define integral rendered within) {}
  rw [define, ran, Eval.run_eq_outcome]
  rcases bounds with ⟨limit, rounds⟩
  match limit with
  | 0 | 1 => exact .inl ⟨by simp only; omega, rfl⟩
  | depth + 2 =>
      have recovers : Node.Recovers file value.leaves value (depth < levels + 2)
          (value.literal.evaluate ⟨file, rounds⟩ depth) :=
        Node.evaluate_literal_recovers integral levels depth text rendered
      have unbound : machine.scope.values.contains "x" = false := by
        rw [scope]
        rfl
      rcases Node.evaluate_define recovers unbound with
        ⟨isShort, ended⟩ | ⟨free, ended⟩ | ⟨holds, ended⟩
      · rw [ended]
        exact .inl ⟨by simp only; omega, rfl⟩
      · rw [ended]
        exact .inr (.inl ⟨free, rfl, by rw [← scope]⟩)
      · rw [ended]
        exact .inr (.inr ⟨holds, rfl, scope⟩)

theorem withinLimit_of_uncut (uncut : (define bounds file text).1.cutOff = false) :
    Node.WithinLimit bounds.limit (defineTokens value) (some file) := by
  intro fault failed
  refine within_of_uncut uncut ?_
  rw [read_of_scan (scan_define integral rendered), failed]
  rfl

end Define

/-- The text of arrays and integers, given as a definition, gives back the value it was printed
for, unless that holds the least integer. -/
theorem define_render (value : Value) (integral : value.Integral) (file : String) :
    (∃ levels text, value.render levels = .ok text) ∧
    ∀ levels text, value.render levels = .ok text →
      (∃ least, ∀ bounds : Bounds, least ≤ bounds.limit →
        (define bounds file text).1.cutOff = false) ∧
      ∀ bounds : Bounds, (define bounds file text).1.cutOff = false →
        (.int Number.wordMin ∉ value.leaves →
          (define bounds file text).1 = .finished .invalid ∧
          (define bounds file text).2.scope = ({} : Scope).setVariable "x" value) ∧
        (.int Number.wordMin ∈ value.leaves → ∃ fault,
          (define bounds file text).1 = .failed fault ∧
          fault.cause.title = "EvalException" ∧
          fault.cause.message = "Integer overflow in '-'" ∧
          (define bounds file text).2.scope = {}) := by
  obtain ⟨least, renders⟩ := integral.exists_render
  obtain ⟨text, rendered⟩ := renders least (Nat.le_refl _)
  refine ⟨⟨least, text, rendered⟩, fun levels text rendered => ⟨?_, fun bounds uncut => ?_⟩⟩
  · refine ⟨max (ampleLimit (defineTokens value)) (levels + 4), fun bounds enough => ?_⟩
    have within : Node.WithinLimit bounds.limit (defineTokens value) (some file) :=
      Node.withinLimit_of_ample (by omega)
    rcases define_of_within integral rendered within with
      ⟨isShort, _⟩ | ⟨_, ended, _⟩ | ⟨_, ended, _⟩
    · omega
    · rw [ended]
      rfl
    · rw [ended]
      rfl
  · have within := withinLimit_of_uncut integral rendered uncut
    rcases define_of_within integral rendered within with
      ⟨_, cut⟩ | ⟨free, ended, scope⟩ | ⟨holds, ended, scope⟩
    · rw [cut] at uncut
      cases uncut
    · exact ⟨fun _ => ⟨ended, scope⟩, fun holds => absurd holds free⟩
    · exact ⟨fun free => absurd holds free, fun _ => ⟨_, ended, rfl, rfl, scope⟩⟩

/-- An empty array, and the least integer that has a literal. -/
def edgeArray : Value :=
  .array [.array [], .int (-9223372036854775807)]

def leastArray : Value :=
  .array [edgeArray, .int (-9223372036854775808)]

theorem integral_edgeArray : edgeArray.Integral := by
  refine .array fun element member => ?_
  simp only [List.mem_cons, List.not_mem_nil, or_false] at member
  rcases member with rfl | rfl
  · exact .array fun _ none => absurd none List.not_mem_nil
  · exact .int (by decide)

theorem integral_leastArray : leastArray.Integral := by
  refine .array fun element member => ?_
  simp only [List.mem_cons, List.not_mem_nil, or_false] at member
  rcases member with rfl | rfl
  · exact integral_edgeArray
  · exact .int (by decide)

theorem define_render_edges :
    (∃ bounds, (define bounds "main" "[[], -9223372036854775807, ]").2.scope =
      ({} : Scope).setVariable "x" edgeArray) ∧
    ∃ bounds fault,
      (define bounds "main" "[[[], -9223372036854775807, ], -9223372036854775808, ]").1 =
        .failed fault ∧ fault.cause.message = "Integer overflow in '-'" := by
  have least : Number.wordMin = -9223372036854775808 := rfl
  have free : .int Number.wordMin ∉ edgeArray.leaves := by
    simp [edgeArray, Value.leaves, Value.leavesAll, least]
  have holds : .int Number.wordMin ∈ leastArray.leaves := by
    simp [leastArray, Value.leaves, Value.leavesAll, least]
  have edgeText : edgeArray.render 2 = .ok "[[], -9223372036854775807, ]" := by
    rfl
  have leastText : leastArray.render 3 =
      .ok "[[[], -9223372036854775807, ], -9223372036854775808, ]" := by
    rfl
  obtain ⟨⟨enough, edgeUncut⟩, edges⟩ :=
    (define_render edgeArray integral_edgeArray "main").2 2 _ edgeText
  obtain ⟨⟨deeper, leastUncut⟩, leasts⟩ :=
    (define_render leastArray integral_leastArray "main").2 3 _ leastText
  refine ⟨⟨⟨enough, 1⟩, ?_⟩, ⟨deeper, 1⟩, ?_⟩
  · have uncut := edgeUncut ⟨enough, 1⟩ (Nat.le_refl _)
    exact ((edges _ uncut).1 free).2
  · have uncut := leastUncut ⟨deeper, 1⟩ (Nat.le_refl _)
    obtain ⟨fault, failed, _, message, _⟩ := (leasts _ uncut).2 holds
    exact ⟨fault, failed, message⟩

end Script

end Scriptlet
