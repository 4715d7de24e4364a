import Scriptlet.Proofs.Evaluation.Frame
import Scriptlet.Proofs.Value.Made
import Scriptlet.Proofs.Value.Validity

/-!
How deep an evaluation goes, and how deep the arrays nest that it makes, where nothing is called
and nothing repeats but the bodies of for loops. A node goes one level down to the nodes below it
and adds at most one level to their values. The iterations of a for loop do not add up, since each
starts from the same scope. So the size of the tree bounds both.
-/

namespace Scriptlet

namespace Value

theorem nestingAll_le_iff {values : List Value} {bound : Nat} :
    nestingAll values ≤ bound ↔ ∀ value ∈ values, value.nesting ≤ bound := by
  induction values with
  | nil => simp [nestingAll]
  | cons value rest ih => rw [nestingAll, Nat.max_le, ih, List.forall_mem_cons]

theorem Made.nesting_eq {bounded : Prop} {value : Value} (made : value.Made bounded) :
    value.nesting = 0 := by
  cases made <;> rfl

end Value

theorem Operator.nesting_of_apply {op : Operator} {left right result : Value}
    (applied : op.apply left right = .ok result) : result.nesting = 0 := by
  have made : _ ∨ result.Made False := made_of_apply (fun _ _ never => never.elim) applied
  rcases made with ⟨rfl, _⟩ | made
  · rfl
  · exact made.nesting_eq

theorem Operator.nesting_of_applyUnary {op : Operator} {operand result : Value}
    (applied : op.applyUnary operand = .ok result) : result.nesting = 0 := by
  have made : result.Made False := made_of_applyUnary applied
  exact made.nesting_eq

theorem Intrinsic.output_ne_tooDeep {levels : Nat} {values : List Value}
    (within : Value.nestingAll values ≤ levels) (intrinsic : Intrinsic) :
    intrinsic.output levels values ≠ .error .tooDeep := by
  cases intrinsic with
  | println =>
      match values with
      | [] | _ :: _ :: _ => simp [output]
      | [value] =>
          have tells := value.render_tells levels
          rw [output]
          rcases rendered : value.render levels with (_ | _) | text
          · simp
          · rw [rendered] at tells
            have flat := Value.nestingAll_le_iff.mp within value List.mem_cons_self
            exact absurd tells (Nat.not_lt.mpr flat)
          · simp

namespace Scope

def nesting (scope : Scope) : Nat :=
  Value.nestingAll (scope.values.entries.map Prod.snd)

theorem nesting_le_iff {scope : Scope} {bound : Nat} :
    scope.nesting ≤ bound ↔ ∀ entry ∈ scope.values.entries, entry.2.nesting ≤ bound := by
  rw [nesting, Value.nestingAll_le_iff, List.forall_mem_map]

theorem nesting_of_get {scope : Scope} {name : String} {value : Value}
    (found : scope.values.get? name = some value) : value.nesting ≤ scope.nesting :=
  nesting_le_iff.mp (Nat.le_refl _) _ (Bindings.mem_of_find found)

theorem nesting_setVariable_le {scope : Scope} {bound : Nat} (flat : scope.nesting ≤ bound)
    {value : Value} (new : value.nesting ≤ bound) (name : String) :
    (scope.setVariable name value).nesting ≤ bound :=
  nesting_le_iff.mpr (@Bindings.forall_mem_put Value (fun value => value.nesting ≤ bound) _ _ _
    (nesting_le_iff.mp flat) new)

end Scope

namespace Eval

inductive Within {α : Type} (measure : α → Nat) (bound : Nat) : Except Stop α × Machine → Prop
  | finished {result : α} {machine : Machine} :
      measure result ≤ bound → machine.scope.nesting ≤ bound →
      Within measure bound (.ok result, machine)
  | stopped {stop : Stop} {machine : Machine} :
      stop ≠ .overflow → Within measure bound (.error stop, machine)

/-- Whether an evaluation takes variables that nest `before` levels deep at most to results and
variables that nest `after` levels deep at most, and never overflows on the way. -/
def Nests {α : Type} (measure : α → Nat) (before after : Nat) (action : Eval α) : Prop :=
  ∀ machine, machine.scope.nesting ≤ before → Within measure after (action.outcome machine)

variable {α β : Type} {measure : α → Nat} {further : β → Nat} {before middle after : Nat}

theorem Nests.bind {action : Eval α} {next : α → Eval β} (head : action.Nests measure before middle)
    (tail : ∀ result, measure result ≤ middle → (next result).Nests further middle after) :
    (action >>= next).Nests further before after := by
  intro machine flat
  have within := head machine flat
  rw [outcome_bind]
  rcases ended : action.outcome machine with ⟨stop | result, reached⟩
  · rw [ended] at within
    cases within with
    | stopped other => exact .stopped other
  · rw [ended] at within
    cases within with
    | finished result scope => exact tail _ result reached scope

theorem Nests.weaken {action : Eval α} (nests : action.Nests measure before middle)
    (more : middle ≤ after) : action.Nests measure before after := by
  intro machine flat
  have within := nests machine flat
  generalize action.outcome machine = ended at within
  cases within with
  | finished result scope =>
      exact .finished (Nat.le_trans result more) (Nat.le_trans scope more)
  | stopped other => exact .stopped other

theorem nests_pure {result : α} (flat : measure result ≤ after) (grown : before ≤ after) :
    (pure result : Eval α).Nests measure before after :=
  fun _ start => .finished flat (Nat.le_trans start grown)

theorem nests_fail (setting : Setting) (line : Nat) (cause : Cause) :
    (setting.fail line cause : Eval α).Nests measure before after := by
  intro machine _
  rw [Setting.outcome_fail]
  exact .stopped (by simp)

theorem nests_located (setting : Setting) (line : Nat) {result : Except Cause α}
    (flat : ∀ value, result = .ok value → measure value ≤ after) (grown : before ≤ after) :
    (setting.located line result).Nests measure before after := by
  cases result with
  | ok value => exact nests_pure (flat value rfl) grown
  | error cause => exact nests_fail setting line cause

theorem nests_scope : scope.Nests Scope.nesting before before :=
  fun _ start => .finished start start

theorem nests_setVariable (name : String) {value : Value} (flat : value.nesting ≤ before) :
    (modifyScope (·.setVariable name value)).Nests (fun _ => 0) before before :=
  fun _ start => .finished (Nat.zero_le _) (Scope.nesting_setVariable_le start flat name)

theorem nests_modifyScope {change : Scope → Scope}
    (same : ∀ scope, (change scope).values = scope.values) :
    (modifyScope change).Nests (fun _ => 0) before before := by
  intro machine start
  refine .finished (Nat.zero_le _) ?_
  change (change machine.scope).nesting ≤ before
  rw [Scope.nesting, same]
  exact start

theorem nests_print (line : String) : (print line).Nests (fun _ => 0) before before :=
  fun _ start => .finished (Nat.zero_le _) start

theorem Nests.inFrame {frame : Scope} {body : Eval Value} (flat : frame.nesting ≤ middle)
    (nests : body.Nests Value.nesting middle after) :
    (inFrame frame body).Nests (fun _ => 0) before before := by
  intro machine start
  have within := nests { machine with scope := frame } flat
  rw [outcome_inFrame]
  generalize body.outcome { machine with scope := frame } = ended at within
  cases within with
  | finished => exact .finished (Nat.zero_le _) start
  | stopped other => exact .stopped other

end Eval

namespace Node

open Eval

mutual

def size : Node → Nat
  | sequence _ nodes | call _ _ nodes | member _ _ _ _ nodes | array _ nodes => sizeAll nodes + 1
  | assign _ _ _ node | unary _ _ node | function _ _ _ node | expression _ node => size node + 1
  | binary _ _ first second | whileLoop _ first second | forLoop _ _ first second =>
      size first + size second + 1
  | returns _ none => 1
  | returns _ (some node) => size node + 1
  | conditional _ condition thenBlock none => size condition + size thenBlock + 1
  | conditional _ condition thenBlock (some node) =>
      size condition + size thenBlock + size node + 1
  | imports .. | int .. | float .. | string .. | reference .. | bare _ => 1

def sizeAll : List Node → Nat
  | [] => 0
  | node :: rest => size node + sizeAll rest

end

theorem size_le_sizeAll {node : Node} {nodes : List Node} (member : node ∈ nodes) :
    node.size ≤ sizeAll nodes := by
  induction nodes with
  | nil => cases member
  | cons first rest ih =>
      rw [sizeAll]
      rcases List.mem_cons.mp member with rfl | later
      · omega
      · have smaller := ih later
        omega

theorem size_eq (node : Node) : node.size = sizeAll (node.inner ++ node.bodies) + 1 := by
  cases node with
  | returns line value => cases value <;> simp [size, sizeAll, inner, bodies]
  | conditional line condition thenBlock elseNode =>
      cases elseNode with
      | none => simp [size, sizeAll, inner, bodies]
      | some node =>
          simp only [size, sizeAll, inner, bodies, Option.toList, List.append_nil]
          omega
  | _ => simp [size, sizeAll, inner, bodies]

theorem size_lt_of_below {child node : Node} (below : child ∈ node.inner ∨ child ∈ node.bodies) :
    child.size < node.size := by
  rw [node.size_eq]
  exact Nat.lt_succ_of_le (size_le_sizeAll (List.mem_append.mpr below))

def isCall : Node → Bool
  | call .. => true
  | _ => false

/-- Whether a node adds no more levels of nesting than it has nodes, as long as that stays below the
top. -/
def StepNests (step : Node → Eval Value) (top : Nat) (node : Node) : Prop :=
  ∀ before, before + node.size ≤ top →
    (step node).Nests Value.nesting before (before + node.size)

section Level

variable {setting : Setting} {step : Node → Eval Value} {top before : Nat}

theorem evaluateSequence_nests {nodes : List Node} (steps : ∀ node ∈ nodes, StepNests step top node)
    (below : before + sizeAll nodes ≤ top) :
    (evaluateSequence step nodes).Nests (fun _ => 0) before (before + sizeAll nodes) := by
  induction nodes generalizing before with
  | nil => exact nests_pure (Nat.zero_le _) (Nat.le_refl _)
  | cons node rest ih =>
      obtain ⟨first, others⟩ := List.forall_mem_cons.mp steps
      rw [sizeAll, ← Nat.add_assoc] at below ⊢
      refine (first before (by omega)).bind fun _ _ => nests_scope.bind fun scope _ => ?_
      split
      · exact nests_pure (Nat.zero_le _) (by omega)
      · exact ih others below

theorem evaluateAll_nests {nodes : List Node} (steps : ∀ node ∈ nodes, StepNests step top node)
    (below : before + sizeAll nodes ≤ top) :
    (evaluateAll step nodes).Nests Value.nestingAll before (before + sizeAll nodes) := by
  induction nodes generalizing before with
  | nil => exact nests_pure (Nat.zero_le _) (Nat.le_refl _)
  | cons node rest ih =>
      obtain ⟨first, others⟩ := List.forall_mem_cons.mp steps
      rw [sizeAll, ← Nat.add_assoc] at below ⊢
      refine (first before (by omega)).bind fun value flat =>
        (ih others below).bind fun values flats => ?_
      exact nests_pure (Nat.max_le.mpr ⟨by omega, flats⟩) (Nat.le_refl _)

theorem evaluateAssign_nests {line : Nat} {name : String} {form : Assignment} {value : Node}
    (nests : (step value).Nests Value.nesting before (before + value.size)) :
    (evaluateAssign setting line name form (step value)).Nests (fun _ => 0) before
      (before + value.size) := by
  have assigns : (step value >>= fun result => modifyScope (·.setVariable name result)).Nests
      (fun _ => 0) before (before + value.size) :=
    nests.bind fun _ flat => nests_setVariable name flat
  cases form with
  | define =>
      refine nests_scope.bind fun scope _ => ?_
      split
      · exact (@nests_fail _ (fun _ => 0) before before _ _ _).bind fun _ _ => assigns
      · exact assigns
  | replace =>
      refine nests_scope.bind fun scope _ => ?_
      split
      · exact assigns
      · exact (@nests_fail _ (fun _ => 0) before before _ _ _).bind fun _ _ => assigns
  | compound text =>
      refine nests.bind fun operand _ => nests_scope.bind fun scope _ => ?_
      cases scope.values.get? name with
      | none => exact nests_fail _ _ _
      | some current =>
          refine (nests_located setting line (fun result applied => ?_) (Nat.le_refl _)).bind
            fun result flat => nests_setVariable name flat
          rw [Operator.nesting_of_apply applied]
          exact Nat.zero_le _

theorem evaluateMember_nests {depth line : Nat} {moduleName name : String} {arguments : List Node}
    (steps : ∀ node ∈ arguments, StepNests step top node)
    (below : before + sizeAll arguments ≤ top) (shallow : 2 * top ≤ depth) :
    (evaluateMember setting depth step line moduleName name arguments).Nests Value.nesting before
      (before + sizeAll arguments) := by
  unfold evaluateMember
  cases Intrinsic.lookup? moduleName name with
  | none => exact nests_fail _ _ _
  | some intrinsic =>
      refine (evaluateAll_nests steps below).bind fun values flats => ?_
      have rendered := @Intrinsic.output_ne_tooDeep (depth / 2) values (by omega) intrinsic
      rcases printed : intrinsic.output (depth / 2) values with (cause | _) | text
      · exact nests_fail _ _ _
      · exact absurd printed rendered
      · exact (nests_print text).bind fun _ _ => nests_pure (Nat.zero_le _) (Nat.le_refl _)

theorem evaluateFor_nests {element : String} {body : Eval Value} {values : List Value} {after : Nat}
    (flats : Value.nestingAll values ≤ before) (nests : body.Nests Value.nesting before after) :
    (evaluateFor element body values).Nests (fun _ => 0) before before := by
  induction values with
  | nil => exact nests_pure (Nat.zero_le _) (Nat.le_refl _)
  | cons value rest ih =>
      obtain ⟨flat, others⟩ := Nat.max_le.mp flats
      refine nests_scope.bind fun scope start => ?_
      have frame := Scope.nesting_setVariable_le start flat element
      exact (nests.inFrame frame).bind fun _ _ => ih others

theorem evaluateLevel_nests {depth : Nat} {node : Node} (calls : node.isCall = false)
    (loops : node.isWhile = false)
    (steps : ∀ child, child ∈ node.inner ∨ child ∈ node.bodies → StepNests step top child)
    (below : before + node.size ≤ top + 1) (shallow : 2 * top ≤ depth) :
    (evaluateLevel setting depth step node).Nests Value.nesting before (before + node.size) := by
  have step {child : Node} (inside : child ∈ node.inner) := steps child (.inl inside)
  cases node with
  | sequence line statements =>
      rw [size] at below ⊢
      have statement (node : Node) (member : node ∈ statements) : StepNests _ top node :=
        step member
      exact (evaluateSequence_nests statement (by omega)).bind fun _ _ =>
        nests_pure (Nat.zero_le _) (by omega)
  | imports | int | float | string => exact nests_pure (Nat.zero_le _) (by omega)
  | assign line name form value =>
      rw [size] at below ⊢
      exact (evaluateAssign_nests (step (by simp [inner]) before (by omega))).bind fun _ _ =>
        nests_pure (Nat.zero_le _) (by omega)
  | binary line op left right =>
      rw [size] at below ⊢
      refine (step (by simp [inner]) before (by omega)).bind fun x _ => ?_
      refine (step (by simp [inner]) (before + left.size) (by omega)).bind fun y _ => ?_
      refine nests_located _ _ (fun result applied => ?_) (by omega)
      rw [Operator.nesting_of_apply applied]
      exact Nat.zero_le _
  | unary line op operand =>
      rw [size] at below ⊢
      refine (step (by simp [inner]) before (by omega)).bind fun x _ => ?_
      refine nests_located _ _ (fun result applied => ?_) (by omega)
      rw [Operator.nesting_of_applyUnary applied]
      exact Nat.zero_le _
  | reference line name =>
      refine nests_scope.bind fun scope flat => ?_
      cases found : scope.values.get? name with
      | none => exact nests_fail _ _ _
      | some value =>
          have held := Scope.nesting_of_get found
          exact nests_pure (by omega) (by omega)
  | call => cases calls
  | member line moduleName callLine name arguments =>
      rw [size] at below ⊢
      have argument (node : Node) (member : node ∈ arguments) : StepNests _ top node := step member
      exact (evaluateMember_nests argument (by omega) shallow).weaken (by omega)
  | array line elements =>
      rw [size] at below ⊢
      have element (node : Node) (member : node ∈ elements) : StepNests _ top node := step member
      refine (evaluateAll_nests element (by omega)).bind fun values flats => ?_
      exact nests_pure (Nat.succ_le_succ flats) (by omega)
  | returns line value =>
      cases value with
      | none =>
          refine Nests.bind (nests_modifyScope fun _ => rfl) fun _ _ => ?_
          exact nests_pure (Nat.zero_le _) (by omega)
      | some value =>
          rw [size] at below ⊢
          refine (step (by simp [inner]) before (by omega)).bind fun result _ => ?_
          refine Nests.bind (nests_modifyScope fun _ => rfl) fun _ _ => ?_
          exact nests_pure (Nat.zero_le _) (by omega)
  | function line name parameters body =>
      refine Nests.bind (nests_modifyScope fun _ => rfl) fun _ _ => ?_
      exact nests_pure (Nat.zero_le _) (by omega)
  | expression line value =>
      rw [size] at below ⊢
      exact (step (by simp [inner]) before (by omega)).bind fun _ _ =>
        nests_pure (Nat.zero_le _) (by omega)
  | conditional line condition thenBlock elseNode =>
      have larger : condition.size + thenBlock.size + (elseNode.map size).getD 0 + 1 =
          (conditional line condition thenBlock elseNode).size := by
        cases elseNode <;> rfl
      refine (step (by simp [inner]) before (by omega)).bind fun value _ => ?_
      split
      · exact (step (by simp [inner]) (before + condition.size) (by omega)).weaken (by omega)
      · cases elseNode with
        | none => exact nests_pure (Nat.zero_le _) (by omega)
        | some node =>
            rw [Option.map_some, Option.getD_some] at larger
            exact (step (by simp [inner]) (before + condition.size) (by omega)).weaken (by omega)
  | whileLoop => cases loops
  | forLoop line element elements body =>
      rw [size] at below ⊢
      refine (step (by simp [inner]) before (by omega)).bind fun value flat => ?_
      cases value with
      | array values =>
          have flats : Value.nestingAll values ≤ before + elements.size := Nat.le_of_succ_le flat
          have body := steps body (by simp [bodies]) (before + elements.size) (by omega)
          exact (evaluateFor_nests flats body).bind fun _ _ => nests_pure (Nat.zero_le _) (by omega)
      | _ => exact nests_fail _ _ _
  | bare line => exact nests_fail _ _ _

end Level

/-- Without calls and while loops, an evaluation that may go three levels down for each node of the
tree, and two for each level of nesting in the variables, does not overflow. -/
theorem evaluate_nests {setting : Setting} {depth before : Nat} {node : Node}
    (calls : node.Everywhere fun part => part.isCall = false)
    (loops : node.Everywhere fun part => part.isWhile = false)
    (enough : 3 * node.size + 2 * before ≤ depth) :
    (node.evaluate setting depth).Nests Value.nesting before (before + node.size) := by
  induction depth generalizing node before with
  | zero =>
      have positive := node.size_eq
      omega
  | succ depth ih =>
      -- A child may start from what the children before it have made, but all of them together
      -- add less than the size of the node.
      refine @evaluateLevel_nests _ _ (before + node.size - 1) before depth node calls.here
        loops.here (fun child below start under => ?_) (by omega) (by omega)
      have smaller := size_lt_of_below below
      exact ih (calls.below below) (loops.below below) (by omega)

end Node

end Scriptlet
