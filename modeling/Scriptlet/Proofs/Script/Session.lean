import Scriptlet.Proofs.Evaluation.Frame
import Scriptlet.Proofs.Script.Read
import Scriptlet.Session

/-!
What a session can rely on from one source text to the next. An expression neither reads nor sets
the return signal of its scope, so it means the same after a return. A simple statement that stops
early has changed nothing, so the session goes on from the scope it had.
-/

namespace Scriptlet

structure Scope.SameBindings (scope other : Scope) : Prop where
  values : other.values = scope.values
  functions : other.functions = scope.functions

theorem Scope.SameBindings.callFrame {scope other : Scope} (same : scope.SameBindings other)
    (callee : Function) (arguments : List Value) :
    other.callFrame callee arguments = scope.callFrame callee arguments := by
  unfold Scope.callFrame
  rw [same.values, same.functions]

namespace Eval

variable {α β : Type}

/-- Whether an evaluation leaves its scope as it is, and neither its result or stop nor what it
prints and notes depends on the return signal. -/
def IgnoresSignal (action : Eval α) : Prop :=
  ∀ (machine : Machine) (other : Scope), machine.scope.SameBindings other →
    action.outcome { machine with scope := other } =
      ((action.outcome machine).1, { (action.outcome machine).2 with scope := other })

theorem IgnoresSignal.scope_eq {action : Eval α} (ignores : action.IgnoresSignal)
    (machine : Machine) : (action.outcome machine).2.scope = machine.scope := by
  have same := ignores machine machine.scope ⟨rfl, rfl⟩
  exact congrArg (fun ended => ended.2.scope) same

theorem ignoresSignal_pure (result : α) : (pure result : Eval α).IgnoresSignal :=
  fun _ _ _ => rfl

theorem ignoresSignal_throw (stop : Stop) : (throw stop : Eval α).IgnoresSignal :=
  fun _ _ _ => rfl

theorem ignoresSignal_note (event : Event) : (note event).IgnoresSignal :=
  fun _ _ _ => rfl

theorem ignoresSignal_print (line : String) : (print line).IgnoresSignal :=
  fun _ _ _ => rfl

/-- The frame replaces the scope, so the signal of the scope does not reach the body. -/
theorem ignoresSignal_inFrame (frame : Scope) (body : Eval Value) :
    (inFrame frame body).IgnoresSignal := by
  intro machine other _
  rw [outcome_inFrame, outcome_inFrame]

theorem IgnoresSignal.bind {action : Eval α} {next : α → Eval β} (head : action.IgnoresSignal)
    (tail : ∀ result, (next result).IgnoresSignal) : (action >>= next).IgnoresSignal := by
  intro machine other same
  have kept := head.scope_eq machine
  rw [outcome_bind, outcome_bind, head machine other same]
  rcases ended : action.outcome machine with ⟨stop | result, reached⟩
  · rfl
  · rw [ended] at kept
    refine tail result reached other ?_
    rwa [show reached.scope = machine.scope from kept]

theorem ignoresSignal_read {next : Scope → Eval α}
    (alike : ∀ before other : Scope, before.SameBindings other → next other = next before)
    (tail : ∀ before, (next before).IgnoresSignal) : (scope >>= next).IgnoresSignal := by
  intro machine other same
  rw [outcome_bind, outcome_bind, outcome_scope, outcome_scope, andThen, andThen,
    alike machine.scope other same]
  exact tail machine.scope machine other same

theorem ignoresSignal_located (setting : Setting) (line : Nat) (result : Except Cause α) :
    (setting.located line result).IgnoresSignal := by
  cases result with
  | ok result => exact ignoresSignal_pure result
  | error cause => exact ignoresSignal_throw _

def Atomic (action : Eval α) : Prop :=
  ∀ machine stop reached, action.outcome machine = (.error stop, reached) →
    reached.scope = machine.scope

theorem Keeps.atomic {action : Eval α} (kept : action.Keeps Eq) : action.Atomic := by
  intro machine stop reached stopped
  have unchanged := kept machine
  rw [stopped] at unchanged
  exact unchanged.symm

theorem atomic_bind_pure {action : Eval α} (atomic : action.Atomic) (result : β) :
    (action >>= fun _ => pure result).Atomic := by
  intro machine stop reached stopped
  rw [outcome_bind] at stopped
  rcases ended : action.outcome machine with ⟨cause | value, left⟩ <;> rw [ended] at stopped
  · cases stopped
    exact atomic machine _ _ ended
  · cases stopped

/-- An update is harmless if all that can fail before it keeps the scope. -/
theorem atomic_bind {action : Eval α} {next : α → Eval β} (kept : action.Keeps Eq)
    (tail : ∀ result, (next result).Atomic) : (action >>= next).Atomic := by
  intro machine stop reached stopped
  have unchanged := kept machine
  rw [outcome_bind] at stopped
  rcases ended : action.outcome machine with ⟨cause | value, left⟩ <;>
    rw [ended] at stopped unchanged
  · cases stopped
    exact unchanged.symm
  · exact (tail value left stop reached stopped).trans unchanged.symm

theorem atomic_modifyScope (change : Scope → Scope) : (modifyScope change).Atomic := by
  intro machine stop reached stopped
  cases stopped

theorem keeps_scope : scope.Keeps Eq :=
  fun _ => rfl

theorem keeps_located (setting : Setting) (line : Nat) (result : Except Cause α) :
    (setting.located line result).Keeps Eq := by
  cases result with
  | ok result => exact fun _ => rfl
  | error cause => exact fun _ => rfl

end Eval

namespace Node

open Eval

section Signal

variable {setting : Setting} {step : Node → Eval Value}

theorem evaluateAll_ignoresSignal {nodes : List Node}
    (steps : ∀ node ∈ nodes, (step node).IgnoresSignal) :
    (evaluateAll step nodes).IgnoresSignal := by
  induction nodes with
  | nil => exact ignoresSignal_pure []
  | cons node rest ih =>
      obtain ⟨first, others⟩ := List.forall_mem_cons.mp steps
      exact first.bind fun _ => (ih others).bind fun _ => ignoresSignal_pure _

theorem evaluateCall_ignoresSignal {arguments : List Node}
    (steps : ∀ node ∈ arguments, (step node).IgnoresSignal) (line : Nat) (name : String) :
    (evaluateCall setting step line name arguments).IgnoresSignal := by
  refine (evaluateAll_ignoresSignal steps).bind fun values => ignoresSignal_read ?_ ?_
  · intro before other same
    simp only [same.functions, same.callFrame]
  · intro before
    cases before.functions.get? name with
    | none => exact ignoresSignal_throw _
    | some callee =>
        exact (ignoresSignal_note _).bind fun _ =>
          (ignoresSignal_inFrame _ _).bind fun _ => ignoresSignal_pure _

theorem evaluateMember_ignoresSignal {arguments : List Node}
    (steps : ∀ node ∈ arguments, (step node).IgnoresSignal) (depth line : Nat)
    (moduleName name : String) :
    (evaluateMember setting depth step line moduleName name arguments).IgnoresSignal := by
  unfold evaluateMember
  cases Intrinsic.lookup? moduleName name with
  | none => exact ignoresSignal_throw _
  | some intrinsic =>
      refine (evaluateAll_ignoresSignal steps).bind fun values => ?_
      rcases intrinsic.output (depth / 2) values with (cause | _) | text
      · exact ignoresSignal_throw _
      · exact ignoresSignal_throw _
      · exact (ignoresSignal_print text).bind fun _ => ignoresSignal_pure _

theorem evaluateLevel_ignoresSignal {node : Node} (expression : node.isExpression = true)
    (steps : ∀ child ∈ node.inner, (step child).IgnoresSignal) (depth : Nat) :
    (evaluateLevel setting depth step node).IgnoresSignal := by
  cases node with
  | int | float | string => exact ignoresSignal_pure _
  | reference line name =>
      refine ignoresSignal_read ?_ ?_
      · intro before other same
        simp only [same.values]
      · intro before
        cases before.values.get? name with
        | none => exact ignoresSignal_throw _
        | some value => exact ignoresSignal_pure value
  | binary line op left right =>
      exact (steps left (by simp [inner])).bind fun _ =>
        (steps right (by simp [inner])).bind fun _ => ignoresSignal_located _ _ _
  | unary line op operand =>
      exact (steps operand (by simp [inner])).bind fun _ => ignoresSignal_located _ _ _
  | call line name arguments => exact evaluateCall_ignoresSignal steps line name
  | member line moduleName callLine name arguments =>
      exact evaluateMember_ignoresSignal steps depth line moduleName name
  | array line elements =>
      exact (evaluateAll_ignoresSignal steps).bind fun _ => ignoresSignal_pure _
  | _ => cases expression

theorem OfExpressions.ignoresSignal {node : Node} (expressions : node.OfExpressions)
    (setting : Setting) (depth : Nat) : (node.evaluate setting depth).IgnoresSignal := by
  induction depth generalizing node with
  | zero => exact ignoresSignal_throw _
  | succ depth ih =>
      refine evaluateLevel_ignoresSignal (expressions node .refl) (fun child inside => ?_) depth
      exact ih fun part openly => expressions part (openly.tail inside)

end Signal

def isSimple : Node → Bool
  | assign .. | returns .. | expression .. | forLoop .. => true
  | _ => false

theorem evaluateAssign_atomic {value : Eval Value} (kept : value.Keeps Eq) (setting : Setting)
    (line : Nat) (name : String) (form : Assignment) :
    (evaluateAssign setting line name form value).Atomic := by
  have store : (do let result ← value; modifyScope (·.setVariable name result)).Atomic :=
    atomic_bind kept fun _ => atomic_modifyScope _
  have refuse (cause : Cause) : (setting.fail line cause : Eval Unit).Keeps Eq := fun _ => rfl
  cases form with
  | define =>
      refine atomic_bind keeps_scope fun before => ?_
      by_cases bound : before.values.contains name = true
      · rw [if_pos bound]
        exact atomic_bind (refuse _) fun _ => store
      · rw [if_neg bound]
        exact store
  | replace =>
      refine atomic_bind keeps_scope fun before => ?_
      by_cases bound : before.values.contains name = true
      · rw [if_pos bound]
        exact store
      · rw [if_neg bound]
        exact atomic_bind (refuse _) fun _ => store
  | compound text =>
      refine atomic_bind kept fun operand => atomic_bind keeps_scope fun before => ?_
      cases before.values.get? name with
      | none => exact (refuse _).atomic
      | some current =>
          exact atomic_bind (keeps_located _ _ _) fun _ => atomic_modifyScope _

theorem evaluateLevel_atomic {setting : Setting} {step : Node → Eval Value} {node : Node}
    (simple : node.isSimple = true) (kept : ∀ child ∈ node.inner, (step child).Keeps Eq)
    (depth : Nat) : (evaluateLevel setting depth step node).Atomic := by
  cases node with
  | assign line name form value =>
      exact atomic_bind_pure (evaluateAssign_atomic (kept value (by simp [inner])) _ _ _ _) _
  | returns line value =>
      cases value with
      | none => exact atomic_bind_pure (atomic_modifyScope _) _
      | some value =>
          refine atomic_bind (kept value (by simp [inner])) fun _ => ?_
          exact atomic_bind_pure (atomic_modifyScope _) _
  | expression line value =>
      exact atomic_bind_pure (kept value (by simp [inner])).atomic _
  | forLoop line element elements body =>
      refine Keeps.atomic (evaluateLevel_keeps kept fun before after update => ?_)
      cases update
  | _ => cases simple

theorem WellFormed.inner_of_isSimple {role : Role} {node child : Node}
    (formed : WellFormed role node) (simple : node.isSimple = true) (inside : child ∈ node.inner) :
    WellFormed .expression child := by
  induction formed with
  | assign _ value | expression value | forLoop value _ =>
      cases List.mem_singleton.mp inside
      exact value
  | returns value => exact value child (Option.mem_toList.mp inside)
  | elseIf _ ih | elseBlock _ ih => exact ih simple inside
  | _ => cases simple

theorem Parsed.evaluate_atomic {node : Node} (parsed : node.Parsed)
    (simple : node.isSimple = true) (setting : Setting) (depth : Nat) :
    (node.evaluate setting depth).Atomic := by
  obtain ⟨role, formed⟩ := parsed.wellFormed
  cases depth with
  | zero => exact Keeps.atomic (keeps_throw _)
  | succ depth =>
      refine evaluateLevel_atomic simple (fun child inside => ?_) depth
      exact evaluate_expression_keeps setting depth (formed.inner_of_isSimple simple inside)

/-- Whether a sequence returns after its last statement makes no difference. -/
theorem evaluate_single (setting : Setting) (depth line : Nat) (statement : Node) :
    (sequence line [statement]).evaluate setting (depth + 1) =
      (do let _ ← statement.evaluate setting depth; return .invalid) := by
  simp only [evaluate, evaluateLevel, evaluateSequence, ite_self, bind_assoc, pure_bind]
  rfl

theorem OfExpressions.single_ignoresSignal {value : Node} (expressions : value.OfExpressions)
    (setting : Setting) (depth line start : Nat) :
    ((sequence line [expression start value]).evaluate setting depth).IgnoresSignal := by
  cases depth with
  | zero => exact ignoresSignal_throw _
  | succ depth =>
      rw [evaluate_single]
      refine IgnoresSignal.bind ?_ fun _ => ignoresSignal_pure _
      cases depth with
      | zero => exact ignoresSignal_throw _
      | succ depth =>
          exact (expressions.ignoresSignal setting depth).bind fun _ => ignoresSignal_pure _

theorem Parsed.single_atomic {node : Node} (parsed : node.Parsed) (simple : node.isSimple = true)
    (setting : Setting) (depth line : Nat) :
    ((sequence line [node]).evaluate setting depth).Atomic := by
  cases depth with
  | zero => exact Keeps.atomic (keeps_throw _)
  | succ depth =>
      rw [evaluate_single]
      exact atomic_bind_pure (parsed.evaluate_atomic simple setting depth) _

end Node

namespace Session

open Eval

def entry (session : Session) (bounds : Bounds) (file source : String) : Machine where
  scope := session.top
  events := (Script.read bounds.limit file source).2.toArray

variable {bounds : Bounds} {file source : String} {program : Script.Program}
  (wasRead : (Script.read bounds.limit file source).1 = .ok program)

include wasRead

theorem run_of_read (session : Session) :
    let ended := (program.tree.evaluate ⟨file, bounds.rounds⟩ bounds.limit).outcome
      (session.entry bounds file source)
    session.run bounds file source =
      (ending file ended.1, ended.2, { session with top := ended.2.scope }) := by
  rw [run, Script.run, Script.execute, wasRead]
  dsimp only
  rw [Script.evaluate, run_eq_outcome]
  rfl

theorem ofExpressions_of_read {line start : Nat} {value : Node}
    (single : program.tree = .sequence line [.expression start value]) : value.OfExpressions := by
  have formed := Node.wellFormed_of_parse (Script.scan_of_read wasRead).2
  rw [single] at formed
  cases formed with
  | sequence statements =>
      cases statements _ (List.mem_singleton.mpr rfl) with
      | expression value => exact value.ofExpressions

/-- A source text that is an expression statement. -/
theorem run_expression {line start : Nat} {value : Node}
    (single : program.tree = .sequence line [.expression start value]) {session twin : Session}
    (same : session.top.SameBindings twin.top) :
    (twin.run bounds file source).1 = (session.run bounds file source).1 ∧
      (twin.run bounds file source).2.1.output = (session.run bounds file source).2.1.output ∧
      (session.run bounds file source).2.2 = session ∧
      (twin.run bounds file source).2.2 = twin := by
  have ignores := (ofExpressions_of_read wasRead single).single_ignoresSignal
    ⟨file, bounds.rounds⟩ bounds.limit line start
  rw [← single] at ignores
  have kept := ignores.scope_eq (session.entry bounds file source)
  have alike : (program.tree.evaluate ⟨file, bounds.rounds⟩ bounds.limit).outcome
      (twin.entry bounds file source) = _ :=
    ignores (session.entry bounds file source) twin.top same
  rw [run_of_read wasRead session, run_of_read wasRead twin, alike]
  refine ⟨rfl, rfl, ?_, rfl⟩
  rw [kept]
  rfl

/-- A source text that is one simple statement. -/
theorem run_simple {line : Nat} {node : Node} (single : program.tree = .sequence line [node])
    (simple : node.isSimple = true) (session : Session) {fault : Fault}
    (failed : (session.run bounds file source).1 = .failed fault) :
    (session.run bounds file source).2.2 = session := by
  have accepted := (Script.scan_of_read wasRead).2
  rw [single] at accepted
  have parsed : node.Parsed :=
    ⟨_, _, _, _, accepted, .single (.inl (List.mem_singleton.mpr rfl))⟩
  have atomic := parsed.single_atomic simple ⟨file, bounds.rounds⟩ bounds.limit line
  rw [← single] at atomic
  rw [run_of_read wasRead session] at failed ⊢
  rcases ended : (program.tree.evaluate ⟨file, bounds.rounds⟩ bounds.limit).outcome
    (session.entry bounds file source) with ⟨stop | value, reached⟩
  · have unchanged := atomic _ stop reached ended
    dsimp only
    rw [unchanged]
    rfl
  · rw [ended] at failed
    cases failed

end Session

/-- Expressions ignore the return signal. In two scopes that bind the same variables and functions
an expression has the same value or stop, prints and notes the same, and leaves the scope as it was.
So a source text that is an expression statement ends alike and prints the same in two sessions with
such scopes on top, and leaves both sessions as they were. -/
theorem Node.expression_ignores_signal {scope other : Scope} (same : scope.SameBindings other) :
    (∀ node : Node, node.OfExpressions → ∀ setting depth output events,
      let ended := (node.evaluate setting depth).outcome ⟨scope, output, events⟩
      ended.2.scope = scope ∧
        (node.evaluate setting depth).outcome ⟨other, output, events⟩ =
          (ended.1, { ended.2 with scope := other })) ∧
    ∀ bounds file source program line start value,
      (Script.read bounds.limit file source).1 = .ok program →
      program.tree = .sequence line [.expression start value] →
      ∀ below lower,
        let first := (Session.mk scope below).run bounds file source
        let second := (Session.mk other lower).run bounds file source
        second.1 = first.1 ∧ second.2.1.output = first.2.1.output ∧
          first.2.2 = ⟨scope, below⟩ ∧ second.2.2 = ⟨other, lower⟩ := by
  constructor
  · intro node expressions setting depth output events
    have ignores := expressions.ignoresSignal setting depth
    exact ⟨ignores.scope_eq ⟨scope, output, events⟩, ignores ⟨scope, output, events⟩ other same⟩
  · intro bounds file source program line start value wasRead single below lower
    exact Session.run_expression wasRead single same

/-- `fun f(n) { for (e) ([n, 5]) { io::println(e); } return n + 1; }`, with a return signal. -/
def signalledScope (returned : Bool) (returnValue : Value) : Scope where
  functions := ⟨[("f", ⟨["n"], .sequence 1
    [.forLoop 1 "e" (.array 1 [.reference 1 "n", .int 1 5])
        (.sequence 1 [.expression 1 (.member 1 "io" 1 "println" [.reference 1 "e"])]),
      .returns 1 (some (.binary 1 .add (.reference 1 "n") (.int 1 1)))]⟩)]⟩
  returnValue := returnValue
  returned := returned

theorem Node.call_ignores_signal :
    let scope := signalledScope false .invalid
    let other := signalledScope true (.int 9)
    let action := (Node.call 1 "f" [.int 1 2]).evaluate ⟨"main", 8⟩ 20
    scope.SameBindings other ∧ (Node.call 1 "f" [.int 1 2]).OfExpressions ∧
      action.outcome ⟨other, #[], #[]⟩ =
        ((action.outcome ⟨scope, #[], #[]⟩).1,
          { (action.outcome ⟨scope, #[], #[]⟩).2 with scope := other }) ∧
      (action.outcome ⟨other, #[], #[]⟩).1 = .ok (.int 3) ∧
      (action.outcome ⟨other, #[], #[]⟩).2.output = #["dbg out: 2\n", "dbg out: 5\n"] := by
  intro scope other action
  have same : scope.SameBindings other := ⟨rfl, rfl⟩
  have expressions : (Node.call 1 "f" [.int 1 2]).OfExpressions := by
    refine WellFormed.ofExpressions (.call fun argument member => ?_)
    rw [List.mem_singleton.mp member]
    exact .int
  obtain ⟨ignores, _⟩ := Node.expression_ignores_signal same
  exact ⟨same, expressions, (ignores _ expressions ⟨"main", 8⟩ 20 #[] #[]).2, by rfl,
    by decide +kernel⟩

/-- A simple statement of a parsed tree that stops early, be it by a fault, by an overflow or for
want of rounds, leaves its scope exactly as it was. So a source text that is such a statement and
fails leaves the session as it was. -/
theorem Node.Parsed.simple_statement_atomic {node : Node} (parsed : node.Parsed)
    (simple : node.isSimple = true) :
    (∀ setting depth machine stop reached,
      (node.evaluate setting depth).outcome machine = (.error stop, reached) →
      reached.scope = machine.scope) ∧
    ∀ bounds file source program line,
      (Script.read bounds.limit file source).1 = .ok program →
      program.tree = .sequence line [node] →
      ∀ (session : Session) fault, (session.run bounds file source).1 = .failed fault →
        (session.run bounds file source).2.2 = session := by
  constructor
  · intro setting depth
    exact parsed.evaluate_atomic simple setting depth
  · intro bounds file source program line wasRead single session fault failed
    exact Session.run_simple wasRead single simple session failed

/-- The tokens of `x += f(1);`. -/
def failingTokens : List Token :=
  [⟨.identifier, some (.text "x"), 1⟩, ⟨.compoundAssign, some (.text "+="), 1⟩,
    ⟨.identifier, some (.text "f"), 1⟩, ⟨.openParen, none, 1⟩, ⟨.integer, some (.integer 1), 1⟩,
    ⟨.closeParen, none, 1⟩, ⟨.semicolon, none, 1⟩]

/-- `x += f(1);` -/
def failingAssignment : Node :=
  .assign 1 "x" (.compound "+=") (.call 1 "f" [.int 1 1])

/-- After `x := 7; fun f(y) { x = y; fun f(y) { } return x + z; }`. -/
def failingScope : Scope where
  values := ⟨[("x", .int 7)]⟩
  functions := ⟨[("f", ⟨["y"], .sequence 1
    [.assign 1 "x" .replace (.reference 1 "y"), .function 1 "f" ["y"] (.sequence 1 []),
      .returns 1 (some (.binary 1 .add (.reference 1 "x") (.reference 1 "z")))]⟩)]⟩

theorem failingAssignment_atomic :
    failingAssignment.Parsed ∧ failingAssignment.isSimple = true ∧
    let ended := (failingAssignment.evaluate ⟨"main", 8⟩ 20).outcome { scope := failingScope }
    ended.1 = .error (.fault ⟨.undefinedVariable "z", some 1, some "main"⟩) ∧
      ended.2.scope = failingScope := by
  have parsed : failingAssignment.Parsed :=
    ⟨100, failingTokens, none, .sequence 1 [failingAssignment], rfl,
      .single (.inl (by simp [Node.inner]))⟩
  obtain ⟨atomic, _⟩ := parsed.simple_statement_atomic rfl
  exact ⟨parsed, rfl, rfl, atomic ⟨"main", 8⟩ 20 { scope := failingScope } _ _ rfl⟩

end Scriptlet
