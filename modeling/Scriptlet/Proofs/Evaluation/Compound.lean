import Scriptlet.Proofs.Evaluation.Depth

/-!
Compound assignments. `x += e` looks at `x` after it has evaluated `e`, whereas `x = x + e` looks
whether `x` is bound and reads it before. The two do the same all the same, since no expression can
change a variable of the scope that it is evaluated in. They differ in the levels they need, of
which the longer form takes one more, and where `x` is unbound in whether `e` is evaluated at all.
-/

namespace Scriptlet

def Assignment.operators : List Operator :=
  [.add, .subtract, .multiply, .divide]

theorem Assignment.operator_compound {op : Operator} (member : op ∈ operators) :
    operator (op.text ++ "=") = op := by
  revert op
  decide

namespace Eval

def Raised {α : Type} (ended : Except Stop α × Machine) : Prop :=
  ∃ stop, ended.1 = .error stop ∧ stop ≠ .unfinished

theorem raised_overflow {α : Type} (machine : Machine) :
    Raised ((.error .overflow, machine) : Except Stop α × Machine) :=
  ⟨.overflow, rfl, by simp⟩

theorem raised_fault {α : Type} (fault : Fault) (machine : Machine) :
    Raised ((.error (.fault fault), machine) : Except Stop α × Machine) :=
  ⟨.fault fault, rfl, by simp⟩

end Eval

namespace Node

open Eval

variable (setting : Setting) (line : Nat) {name : String} {machine : Machine} (value : Node)
  (depth : Nat)

theorem evaluate_replace_of_bound (bound : machine.scope.values.contains name = true) :
    ((assign line name .replace value).evaluate setting (depth + 1)).outcome machine =
      andThen ((value.evaluate setting depth).outcome machine) fun result => do
        modifyScope (·.setVariable name result)
        return .invalid := by
  rw [evaluate, evaluateLevel, evaluateAssign, bind_assoc, outcome_bind, outcome_scope, andThen,
    if_pos bound, bind_assoc]
  exact outcome_bind _ _ machine

theorem evaluate_replace_of_unbound (unbound : machine.scope.values.contains name = false) :
    ((assign line name .replace value).evaluate setting (depth + 1)).outcome machine =
      (.error (.fault ⟨.undefinedVariable name, some line, some setting.file⟩), machine) := by
  rw [evaluate, evaluateLevel, evaluateAssign, bind_assoc, outcome_bind, outcome_scope, andThen,
    if_neg (by simp [unbound])]
  rfl

/-- A loop whose condition holds and whose body changes nothing comes to no end. -/
theorem evaluateWhile_endless {condition body : Eval Value} {held result : Value}
    (running : machine.scope.returned = false)
    (tested : condition.outcome machine = (.ok held, machine)) (holds : held.truthy = true)
    (idle : body.outcome machine = (.ok result, machine)) (rounds count : Nat) :
    (evaluateWhile condition body rounds count).outcome machine =
      (.error .unfinished, machine) := by
  induction rounds generalizing count with
  | zero => rfl
  | succ rounds ih =>
      rw [evaluateWhile, outcome_bind, outcome_scope, andThen, if_neg (by simp [running]),
        outcome_bind, tested, andThen, if_pos holds, outcome_bind, idle, andThen]
      exact ih (count + 1)

end Node

/-- A compound assignment, with the line of the variable where the assignment is written out. -/
structure Compound where
  line : Nat
  readLine : Nat
  name : String
  op : Operator
  value : Node

namespace Compound

open Eval

/-- `name op= value` -/
def node (compound : Compound) : Node :=
  .assign compound.line compound.name (.compound (compound.op.text ++ "=")) compound.value

/-- `name op value` -/
def combination (compound : Compound) : Node :=
  .binary compound.line compound.op (.reference compound.readLine compound.name) compound.value

/-- `name = name op value` -/
def writtenOut (compound : Compound) : Node :=
  .assign compound.line compound.name .replace compound.combination

variable (compound : Compound) (setting : Setting) {machine : Machine}

def finish (current operand : Value) : Eval Value := do
  let result ← setting.located compound.line (compound.op.apply current operand)
  modifyScope (·.setVariable compound.name result)
  return .invalid

theorem node_of_stop {depth : Nat} {stop : Stop}
    (stopped : ((compound.value.evaluate setting depth).outcome machine).1 = .error stop) :
    ((compound.node.evaluate setting (depth + 1)).outcome machine).1 = .error stop := by
  rw [node, Node.evaluate, Node.evaluateLevel, Node.evaluateAssign, bind_assoc, outcome_bind]
  rcases ended : (compound.value.evaluate setting depth).outcome machine with ⟨_ | _, reached⟩ <;>
    rw [ended] at stopped
  · exact stopped
  · cases stopped

section Bound

variable {current : Value} (found : machine.scope.values.get? compound.name = some current)

include found

theorem outcome_combination (depth : Nat) :
    (compound.combination.evaluate setting (depth + 1)).outcome machine =
      andThen ((compound.value.evaluate setting depth).outcome machine) fun operand =>
        setting.located compound.line (compound.op.apply current operand) := by
  cases depth with
  | zero => rfl
  | succ depth =>
      have read : ((Node.reference compound.readLine compound.name).evaluate setting
          (depth + 1)).outcome machine = (.ok current, machine) := by
        rw [Node.evaluate, Node.evaluateLevel, outcome_bind, outcome_scope, andThen, found]
        rfl
      rw [combination, Node.evaluate, Node.evaluateLevel, outcome_bind, read, andThen, outcome_bind]

theorem outcome_writtenOut (depth : Nat) :
    (compound.writtenOut.evaluate setting (depth + 2)).outcome machine =
      andThen ((compound.value.evaluate setting depth).outcome machine)
        (compound.finish setting current) := by
  have bound : machine.scope.values.contains compound.name = true := by
    rw [Bindings.contains, found]
    rfl
  rw [writtenOut, Node.evaluate_replace_of_bound setting _ _ _ bound,
    compound.outcome_combination setting found]
  rcases (compound.value.evaluate setting depth).outcome machine with ⟨stop | operand, reached⟩
  · rfl
  · exact (outcome_bind _ _ reached).symm

theorem outcome_node (arithmetic : compound.op ∈ Assignment.operators)
    (expressions : compound.value.OfExpressions) (depth : Nat) :
    (compound.node.evaluate setting (depth + 1)).outcome machine =
      andThen ((compound.value.evaluate setting depth).outcome machine)
        (compound.finish setting current) := by
  have kept := expressions.evaluate_keeps setting depth machine
  rw [node, Node.evaluate, Node.evaluateLevel, Node.evaluateAssign, bind_assoc, outcome_bind]
  rcases ended : (compound.value.evaluate setting depth).outcome machine with
    ⟨stop | operand, reached⟩
  · rfl
  · -- The variable is looked up only now, and still has the value it had before.
    rw [ended] at kept
    rw [show machine.scope = reached.scope from kept] at found
    rw [andThen, andThen, bind_assoc, outcome_bind, outcome_scope, andThen, found,
      Assignment.operator_compound arithmetic, finish]
    dsimp only
    rw [bind_assoc]

end Bound

theorem writtenOut_eq_node (arithmetic : compound.op ∈ Assignment.operators)
    (expressions : compound.value.OfExpressions)
    (bound : machine.scope.values.contains compound.name = true) (depth : Nat) :
    (compound.writtenOut.evaluate setting (depth + 1)).outcome machine =
      (compound.node.evaluate setting depth).outcome machine := by
  obtain ⟨current, found⟩ := Option.isSome_iff_exists.mp bound
  cases depth with
  | zero =>
      rw [writtenOut, Node.evaluate_replace_of_bound setting _ _ _ bound]
      rfl
  | succ depth =>
      rw [compound.outcome_writtenOut setting found,
        compound.outcome_node setting found arithmetic expressions]

section Unbound

variable (unbound : machine.scope.values.contains compound.name = false)

include unbound

theorem writtenOut_raises (depth : Nat) :
    Raised ((compound.writtenOut.evaluate setting depth).outcome machine) ∧
      ((compound.writtenOut.evaluate setting depth).outcome machine).2 = machine := by
  cases depth with
  | zero => exact ⟨raised_overflow machine, rfl⟩
  | succ depth =>
      rw [writtenOut, Node.evaluate_replace_of_unbound setting _ _ _ unbound]
      exact ⟨raised_fault _ machine, rfl⟩

theorem node_raises (expressions : compound.value.OfExpressions) (depth : Nat) :
    (Raised ((compound.node.evaluate setting depth).outcome machine) ∨
      ((compound.value.evaluate setting (depth - 1)).outcome machine).1 = .error .unfinished) ∧
      ((compound.node.evaluate setting depth).outcome machine).2.scope = machine.scope := by
  cases depth with
  | zero => exact ⟨.inl (raised_overflow machine), rfl⟩
  | succ depth =>
      have kept := expressions.evaluate_keeps setting depth machine
      have absent : machine.scope.values.get? compound.name = none := by
        simpa [Bindings.contains] using unbound
      rw [node, Node.evaluate, Node.evaluateLevel, Node.evaluateAssign, bind_assoc, outcome_bind,
        Nat.add_sub_cancel]
      rcases ended : (compound.value.evaluate setting depth).outcome machine with
        ⟨stop | operand, reached⟩ <;> rw [ended] at kept
      · refine ⟨?_, kept.symm⟩
        by_cases endless : stop = .unfinished
        · exact .inr (congrArg Except.error endless)
        · exact .inl ⟨stop, rfl, endless⟩
      · rw [show machine.scope = reached.scope from kept] at absent
        rw [andThen, bind_assoc, outcome_bind, outcome_scope, andThen, absent]
        exact ⟨.inl (raised_fault _ reached), kept.symm⟩

end Unbound

/-- A compound assignment of an expression and the assignment that writes it out. Where the variable
is bound, the longer form does with one level more what the shorter one does: it has the same
result or stop, and leaves the same scope, output and journal; so within the same levels they differ
only if the longer one overflows. Where it is unbound, both raise and leave the scope as it was,
unless evaluating the expression, which the shorter form does first, comes to no end. -/
theorem node_as_writtenOut (arithmetic : compound.op ∈ Assignment.operators)
    (expressions : compound.value.OfExpressions) (depth : Nat) (machine : Machine) :
    let short := (compound.node.evaluate setting depth).outcome machine
    let long (depth : Nat) := (compound.writtenOut.evaluate setting depth).outcome machine
    (machine.scope.values.contains compound.name = true →
      long (depth + 1) = short ∧ UpToOverflow (long depth) short) ∧
    (machine.scope.values.contains compound.name = false →
      (Raised (long depth) ∧ (long depth).2.scope = machine.scope) ∧
      (Raised short ∨
        ((compound.value.evaluate setting (depth - 1)).outcome machine).1 = .error .unfinished) ∧
      short.2.scope = machine.scope) := by
  intro short long
  constructor
  · intro bound
    have same : long (depth + 1) = short :=
      compound.writtenOut_eq_node setting arithmetic expressions bound depth
    refine ⟨same, ?_⟩
    rw [← same]
    exact Node.evaluate_of_deeper setting (Nat.le_succ depth) compound.writtenOut machine
  · intro unbound
    obtain ⟨raised, unchanged⟩ := compound.writtenOut_raises setting unbound depth
    exact ⟨⟨raised, congrArg Machine.scope unchanged⟩,
      compound.node_raises setting unbound expressions depth⟩

/-- A machine with the function `f(y)` of these statements, and these variables. -/
def calling (statements : List Node) (values : List (String × Value)) : Machine where
  scope :=
    { values := ⟨values⟩
      functions := ⟨[("f", ⟨["y"], .sequence 1 statements⟩)]⟩ }

/-- `x += value` -/
def increase (value : Node) : Compound where
  line := 1
  readLine := 1
  name := "x"
  op := .add
  value := value

/-- `x += f(2)` -/
def undermining : Compound :=
  increase (.call 1 "f" [.int 1 2])

/-- After `fun f(y) { io::println(y); x = y; return x + 1; }` -/
def underminingMachine : List (String × Value) → Machine :=
  calling
    [.expression 1 (.member 1 "io" 1 "println" [.reference 1 "y"]),
      .assign 1 "x" .replace (.reference 1 "y"),
      .returns 1 (some (.binary 1 .add (.reference 1 "x") (.int 1 1)))]

theorem undermining_as_writtenOut :
    undermining.op ∈ Assignment.operators ∧ undermining.value.OfExpressions ∧
    (let machine := underminingMachine [("x", .int 7)]
    (undermining.writtenOut.evaluate ⟨"main", 0⟩ 9).outcome machine =
        (undermining.node.evaluate ⟨"main", 0⟩ 8).outcome machine ∧
      ((undermining.node.evaluate ⟨"main", 0⟩ 8).outcome machine).2.scope.values.get? "x" =
        some (.int 10)) ∧
    let machine := underminingMachine []
    Raised ((undermining.writtenOut.evaluate ⟨"main", 0⟩ 8).outcome machine) ∧
      Raised ((undermining.node.evaluate ⟨"main", 0⟩ 8).outcome machine) ∧
      ((undermining.node.evaluate ⟨"main", 0⟩ 8).outcome machine).2.scope = machine.scope := by
  have arithmetic : undermining.op ∈ Assignment.operators := by decide
  have expressions : undermining.value.OfExpressions := by
    refine Node.WellFormed.ofExpressions (.call fun argument member => ?_)
    rw [List.mem_singleton.mp member]
    exact .int
  obtain ⟨bound, _⟩ := undermining.node_as_writtenOut ⟨"main", 0⟩ arithmetic expressions 8
    (underminingMachine [("x", .int 7)])
  obtain ⟨_, unbound⟩ := undermining.node_as_writtenOut ⟨"main", 0⟩ arithmetic expressions 8
    (underminingMachine [])
  obtain ⟨⟨longRaised, _⟩, shortRaised, unchanged⟩ := unbound rfl
  refine ⟨arithmetic, expressions, ⟨(bound rfl).1, by rfl⟩, longRaised, ?_, unchanged⟩
  exact shortRaised.resolve_right fun endless => by cases endless

/-- `while (1) { }` -/
def endless : Node :=
  .whileLoop 1 (.int 1 1) (.sequence 1 [])

theorem evaluate_endless (running : machine.scope.returned = false) (depth : Nat) :
    (endless.evaluate setting (depth + 2)).outcome machine = (.error .unfinished, machine) := by
  have tested : ((Node.int 1 1).evaluate setting (depth + 1)).outcome machine =
      (.ok (.int 1), machine) := rfl
  have idle : ((Node.sequence 1 []).evaluate setting (depth + 1)).outcome machine =
      (.ok .invalid, machine) := rfl
  rw [endless, Node.evaluate, Node.evaluateLevel, outcome_bind,
    Node.evaluateWhile_endless running tested rfl idle]
  rfl

theorem evaluate_call_endless (depth : Nat) :
    (((Node.call 1 "f" []).evaluate setting (depth + 4)).outcome (calling [endless] [])).1 =
      .error .unfinished := by
  let body := (Node.sequence 1 [endless]).evaluate setting (depth + 3)
  have looping {machine : Machine} (running : machine.scope.returned = false) :
      body.outcome machine = (.error .unfinished, machine) := by
    dsimp only [body]
    rw [Node.evaluate, Node.evaluateLevel, Node.evaluateSequence, bind_assoc, outcome_bind,
      evaluate_endless setting running]
    rfl
  have called : ((Node.call 1 "f" []).evaluate setting (depth + 4)).outcome (calling [endless] []) =
      (inFrame (calling [endless] []).scope body >>= fun frame => pure frame.returnValue).outcome
        { calling [endless] [] with events := #[.call "f" 0 1] } := rfl
  rw [called, outcome_bind, outcome_inFrame, looping rfl]
  rfl

/-- `x += f(x = 5)`, where an argument is not an expression, reads the `x` that the argument has
assigned. `x = x + 1` goes down one level more than `x += 1`. And `x += f()` does not come to look
for `x` if `f` does not end. -/
theorem node_other_than_writtenOut :
    (let compound := increase (.call 1 "f" [.assign 1 "x" .replace (.int 1 5)])
    let machine := calling [.returns 1 (some (.int 1 1))] [("x", .int 7)]
    ((compound.node.evaluate ⟨"main", 0⟩ 8).outcome machine).2.scope.values.get? "x" =
        some (.int 6) ∧
      ((compound.writtenOut.evaluate ⟨"main", 0⟩ 8).outcome machine).2.scope.values.get? "x" =
        some (.int 8)) ∧
    (let compound := increase (.int 1 1)
    (compound.node.evaluate ⟨"main", 0⟩ 2).outcome (calling [] [("x", .int 7)]) =
        (.ok .invalid, calling [] [("x", .int 8)]) ∧
      (compound.writtenOut.evaluate ⟨"main", 0⟩ 2).outcome (calling [] [("x", .int 7)]) =
        (.error .overflow, calling [] [("x", .int 7)])) ∧
    (let compound := increase (.call 1 "f" [])
    ∀ rounds depth, ((compound.node.evaluate ⟨"main", rounds⟩ (depth + 5)).outcome
          (calling [endless] [])).1 = .error .unfinished ∧
      (compound.writtenOut.evaluate ⟨"main", rounds⟩ (depth + 5)).outcome (calling [endless] []) =
        (.error (.fault ⟨.undefinedVariable "x", some 1, some "main"⟩), calling [endless] [])) := by
  refine ⟨⟨rfl, rfl⟩, ⟨rfl, rfl⟩, fun rounds depth => ⟨?_, rfl⟩⟩
  exact node_of_stop _ ⟨"main", rounds⟩ (evaluate_call_endless ⟨"main", rounds⟩ depth)

end Compound

end Scriptlet
