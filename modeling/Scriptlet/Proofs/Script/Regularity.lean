import Scriptlet.Proofs.Evaluation.Vetting
import Scriptlet.Proofs.Grammar.Form
import Scriptlet.Proofs.Grammar.Ground
import Scriptlet.Proofs.Script.Read
import Scriptlet.Proofs.Token.Source

/-!
Programs from source text. The tables of the lexer, of the parser and of the operators are made
for each other: what a program from source text consists of has rules at every stage. So a run of
it never gets to the cases that evaluation provides for other trees. This stays true of runs in the
scopes that such runs leave, whose functions come from source text as well.
-/

namespace Scriptlet

namespace Assignment

def lexical : List Assignment :=
  [define, replace, compound "+=", compound "-=", compound "*=", compound "/="]

def fallsBack : Assignment → Bool
  | compound text => (operator text).fallsBack
  | _ => false

end Assignment

namespace Token.Lexical

variable {token : Token}

theorem operator_mem (lexical : token.Lexical) {op : Operator}
    (spelled : token.operator? = some op) : op ∈ Operator.lexical := by
  cases lexical with
  | operator member =>
      rw [Grammar.operator_of_payload rfl rfl] at spelled
      have known : Operator.lexical ⊆ Operator.known := by decide
      cases spelled
      rw [Operator.ofText_text (known member)]
      exact member
  | mark => simp [Token.operator?, Token.text?] at spelled
  | _ => simp [Token.operator?] at spelled

theorem form_mem (lexical : token.Lexical) {form : Assignment}
    (found : Grammar.assignmentForm? token = some form) : form ∈ Assignment.lexical := by
  cases lexical with
  | compound member =>
      simp only [compoundAssignments, List.mem_cons, List.not_mem_nil, or_false] at member
      rcases member with rfl | rfl | rfl | rfl <;> cases found <;> decide
  | @mark kind line marked => cases kind <;> cases found <;> decide
  | _ => cases found

theorem integer_range (lexical : token.Lexical) {value : Int}
    (payload : token.payload = some (.integer value)) : 0 ≤ value ∧ value ≤ integerMax := by
  cases lexical with
  | integer least greatest =>
      cases payload
      exact ⟨least, greatest⟩
  | _ => cases payload

theorem isName (lexical : token.Lexical) {name : String} (named : token.Named name) :
    IsName name := by
  obtain ⟨kind, payload⟩ := named
  cases lexical with
  | name isName =>
      cases payload
      exact isName
  | mark => cases payload
  | _ => cases kind

end Token.Lexical

namespace Node

/-- Whether the operator, the form of assignment or the number of a node is one of those that
source text can spell there. -/
def Spellable : Node → Prop
  | binary _ op _ _ => op ∈ Operator.lexical ∧ op ≠ .not
  | unary _ op _ => op = .not ∨ op = .subtract
  | assign _ _ form _ => form ∈ Assignment.lexical
  | int _ value => 0 ≤ value ∧ value ≤ Token.integerMax
  | bare _ => False
  | _ => True

structure Regular (node : Node) : Prop where
  words : ∀ word ∈ node.words, IsName word
  spellable : node.Spellable

/-- Whether the evaluation of a node goes to a case that no rule of the language is for. -/
def fallsBack : Node → Bool
  | binary _ op _ _ => op.fallsBack
  | assign _ _ form _ => form.fallsBack
  | unary _ op _ => !op.isUnary
  | bare _ => true
  | _ => false

theorem Grounded.regular {tokens : List Token} {node : Node} (grounded : node.Grounded tokens)
    (lexical : ∀ token ∈ tokens, token.Lexical) : node.Regular := by
  obtain ⟨_, words, spelled⟩ := grounded
  refine ⟨fun word member => ?_, ?_⟩
  · obtain ⟨token, inside, named⟩ := words word member
    exact (lexical token inside).isName named
  cases node with
  | binary line op left right =>
      obtain ⟨ranked, token, inside, spelled⟩ := spelled
      refine ⟨(lexical token inside).operator_mem spelled, ?_⟩
      rintro rfl
      cases ranked
  | unary line op operand => simpa [Operator.isUnary, Spellable] using spelled.1
  | assign line name form value =>
      obtain ⟨token, inside, found⟩ := spelled
      exact (lexical token inside).form_mem found
  | int line value =>
      obtain ⟨token, inside, _, payload⟩ := spelled
      exact (lexical token inside).integer_range payload
  | bare line => exact spelled
  | _ => trivial

theorem Regular.ruled {node : Node} (regular : node.Regular) : node.fallsBack = false := by
  obtain ⟨_, spellable⟩ := regular
  cases node with
  | binary line op left right =>
      obtain ⟨member, positive⟩ := spellable
      have ruled : ∀ op ∈ Operator.lexical, op ≠ .not → op.fallsBack = false := by decide
      exact ruled op member positive
  | unary line op operand => rcases spellable with rfl | rfl <;> rfl
  | assign line name form value =>
      have ruled : ∀ form ∈ Assignment.lexical, form.fallsBack = false := by decide
      exact ruled form spellable
  | bare line => exact spellable.elim
  | _ => rfl

end Node

def Scope.Regular (scope : Scope) : Prop :=
  scope.Keeps (Node.Everywhere Node.Regular)

namespace Script

variable {limit : Nat} {file source : String} {program : Program}

theorem regular_of_read (wasRead : (read limit file source).1 = .ok program) :
    program.tree.Everywhere Node.Regular := by
  obtain ⟨scanned, parsed⟩ := scan_of_read wasRead
  obtain ⟨nodes, same, grounded⟩ := Node.grounded_of_parse parsed
  have lexical (token : Token) (member : token ∈ program.tokens) : token.Lexical :=
    (Token.lexical_of_scan scanned member).1
  rw [same]
  refine Node.everywhere_of_below ⟨by simp [Node.words], trivial⟩ (fun node member => ?_)
    (by simp [Node.bodies])
  exact fun part occurs => (grounded node member part occurs).regular lexical

/-- Whether a run never falls back: it is the same if falling back sounds an alarm, whatever
that does, it leaves functions that never fall back either, and no fault says that it did. -/
structure NeverFallsBack (bounds : Bounds) (file source : String) (tree : Node) (scope : Scope) :
    Prop where
  vetted : ∀ alarm,
    let vetted := Eval.run file
      (tree.evaluateVetted (fun node => !node.fallsBack) alarm ⟨file, bounds.rounds⟩ bounds.limit)
      { scope := scope }
    vetted.1 = (run bounds file source scope).1 ∧
      vetted.2.scope = (run bounds file source scope).2.scope ∧
      vetted.2.output = (run bounds file source scope).2.output
  regular : (run bounds file source scope).2.scope.Regular
  faults : ∀ fault, (run bounds file source scope).1 = .failed fault →
    (∀ line, fault.cause ≠ .bareNode line) ∧
      ∀ text detail, fault.cause = .unsupportedOperands text detail → detail ≠ ""

theorem neverFallsBack_of_read {bounds : Bounds}
    (wasRead : (read bounds.limit file source).1 = .ok program) {scope : Scope}
    (regular : scope.Regular) : NeverFallsBack bounds file source program.tree scope := by
  obtain ⟨machine, rfl, silent, ran⟩ := run_of_read wasRead scope
  have fits (node : Node) (regular : node.Everywhere Node.Regular) : (!node.fallsBack) = true := by
    simp [regular.here.ruled]
  have among (alarm : Eval Value) :
      Node.EndsAmong (Node.Everywhere Node.Regular) file
        ((program.tree.evaluate ⟨file, bounds.rounds⟩ bounds.limit).outcome machine)
        ((program.tree.evaluateVetted (fun node => !node.fallsBack) alarm ⟨file, bounds.rounds⟩
          bounds.limit).outcome { scope := machine.scope }) :=
    Node.evaluate_endsAmong (Node.closed_everywhere Node.Regular) fits alarm ⟨file, bounds.rounds⟩
      bounds.limit (regular_of_read wasRead) rfl silent.symm regular
  rw [Eval.run_eq_outcome] at ran
  refine ⟨fun alarm => ?_, ?_, fun fault failed => ?_⟩
  · rw [ran, Eval.run_eq_outcome]
    exact ⟨congrArg (Eval.ending file) (among alarm).result, (among alarm).scope,
      (among alarm).output⟩
  · rw [ran]
    exact (among (pure .invalid)).keeps
  · rw [ran] at failed
    rcases Eval.fault_of_ending failed with stopped | rfl
    · obtain ⟨node, regular, raised⟩ := (among (pure .invalid)).faults fault stopped
      obtain ⟨_, _, bare, worded⟩ := raised.cause.answers
      refine ⟨fun line same => ?_, worded⟩
      have spellable := regular.here.spellable
      rw [bare line same] at spellable
      exact spellable
    · exact ⟨by simp, by simp⟩

/-- A program from source text is regular, and no run of it from a fresh scope falls back. The
same holds of runs in any scope whose functions are regular, such as those that these runs leave. -/
theorem read_program_never_falls_back (bounds : Bounds) (file source : String)
    (program : Program) (wasRead : (read bounds.limit file source).1 = .ok program) :
    Node.WellFormed .block program.tree ∧ program.tree.Everywhere Node.Regular ∧
    (∀ op : Operator, op.fallsBack = false → ∀ left right, op.apply left right ≠ .ok .invalid) ∧
    NeverFallsBack bounds file source program.tree {} ∧
    ∀ scope : Scope, scope.Regular → NeverFallsBack bounds file source program.tree scope := by
  obtain ⟨_, parsed⟩ := scan_of_read wasRead
  have fresh : ({} : Scope).Regular := fun _ member => absurd member List.not_mem_nil
  refine ⟨Node.wellFormed_of_parse parsed, regular_of_read wasRead, ?_,
    neverFallsBack_of_read wasRead fresh, fun scope => neverFallsBack_of_read wasRead⟩
  intro op ruled left right made
  have gives := Operator.gives_apply ruled left right
  rw [made] at gives
  cases gives with
  | value valid => exact valid rfl

/-- A loop with a compound assignment, and a negation that fails inside a function. -/
def operatorScript : String :=
  "x := 1; while (x > 0) " ++ block " x -= 1; " ++ " fun f(a) " ++ block " return -a; " ++
    " f(!(x == 0));"

theorem read_operatorScript_never_falls_back :
    ∃ program, (read 100 "main" operatorScript).1 = .ok program ∧
      program.tree.Everywhere Node.Regular ∧
      NeverFallsBack ⟨100, 8⟩ "main" operatorScript program.tree {} := by
  obtain ⟨program, wasRead⟩ := @exists_program (read 100 "main" operatorScript).1 (by
    decide +kernel)
  obtain ⟨_, regular, _, run, _⟩ :=
    read_program_never_falls_back ⟨100, 8⟩ "main" operatorScript program wasRead
  exact ⟨program, wasRead, regular, run⟩

end Script

end Scriptlet
