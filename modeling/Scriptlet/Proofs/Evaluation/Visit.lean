import Mathlib.Logic.Relation
import Mathlib.Order.Defs.Unbundled
import Scriptlet.Proofs.Evaluation.Run

/-!
Which evaluations a node brings about. It enters trees below it, one after the other, in its own
scope; calls and for loops open frames for the bodies that they run. Every one of these visits
starts from the machine that the visits before it have left, and the conditions of the rules keep
them on the way that is really taken. So what all visits do and what the node does by itself decide
what the whole evaluation does.
-/

namespace Scriptlet

def Assignment.accepts (bound : Bool) : Assignment → Bool
  | define => !bound
  | replace => bound
  | compound _ => true

namespace Node

/-- The trees right below a node that are evaluated in its own scope. -/
def inner : Node → List Node
  | sequence _ statements => statements
  | assign _ _ _ value => [value]
  | binary _ _ left right => [left, right]
  | unary _ _ operand => [operand]
  | call _ _ arguments | member _ _ _ _ arguments => arguments
  | array _ elements => elements
  | returns _ value => value.toList
  | expression _ value => [value]
  | conditional _ condition thenBlock elseNode => condition :: thenBlock :: elseNode.toList
  | whileLoop _ condition body => [condition, body]
  | forLoop _ _ elements _ => [elements]
  | imports .. | int .. | float .. | string .. | reference .. | function .. | bare _ => []

/-- `Updates node before after`: the update that a node makes itself takes a scope to another. -/
inductive Updates : Node → Scope → Scope → Prop
  | assign {line : Nat} {name : String} {form : Assignment} {value : Node} {scope : Scope}
      {result : Value} :
      Updates (.assign line name form value) scope (scope.setVariable name result)
  | returnNothing {line : Nat} {scope : Scope} :
      Updates (.returns line none) scope { scope with returned := true }
  | returnValue {line : Nat} {value : Node} {scope : Scope} {result : Value} :
      Updates (.returns line (some value)) scope
        { scope with returnValue := result, returned := true }
  | function {line : Nat} {name : String} {parameters : List String} {body : Node}
      {scope : Scope} :
      Updates (.function line name parameters body) scope
        (scope.setFunction name ⟨parameters, body⟩)

def operands (scope : Scope) : Node → List Node
  | assign _ name form value => if form.accepts (scope.values.contains name) then [value] else []
  | binary _ _ left right => [left, right]
  | unary _ _ operand => [operand]
  | call _ _ arguments => arguments
  | member _ moduleName _ name arguments =>
      if (Intrinsic.lookup? moduleName name).isSome then arguments else []
  | array _ elements => elements
  | returns _ value => value.toList
  | expression _ value => [value]
  | conditional _ condition _ _ => [condition]
  | forLoop _ _ elements _ => [elements]
  | sequence .. | imports .. | int .. | float .. | string .. | reference .. | function ..
  | whileLoop .. | bare _ => []

/-- `Turn step goesOn nodes machine node reached`: nodes that are evaluated in turn, as long as the
scope lets them go on, have got to one of them. -/
inductive Turn (step : Node → Eval Value) (goesOn : Scope → Prop) :
    List Node → Machine → Node → Machine → Prop
  | first {node : Node} {rest : List Node} {machine : Machine} :
      Turn step goesOn (node :: rest) machine node machine
  | later {node part : Node} {rest : List Node} {value : Value}
      {machine reached entered : Machine} :
      (step node).outcome machine = (.ok value, reached) → goesOn reached.scope →
      Turn step goesOn rest reached part entered →
      Turn step goesOn (node :: rest) machine part entered

/-- `Round step condition body rounds machine node reached`: a while loop with so many rounds left
has got to its condition or to its body. -/
inductive Round (step : Node → Eval Value) (condition body : Node) :
    Nat → Machine → Node → Machine → Prop
  | test {rounds : Nat} {machine : Machine} :
      machine.scope.returned = false →
      Round step condition body (rounds + 1) machine condition machine
  | body {rounds : Nat} {value : Value} {machine tested : Machine} :
      machine.scope.returned = false →
      (step condition).outcome machine = (.ok value, tested) → value.truthy = true →
      Round step condition body (rounds + 1) machine body tested
  | next {rounds : Nat} {part : Node} {value result : Value}
      {machine tested reached entered : Machine} :
      machine.scope.returned = false →
      (step condition).outcome machine = (.ok value, tested) → value.truthy = true →
      (step body).outcome tested = (.ok result, reached) →
      Round step condition body rounds reached part entered →
      Round step condition body (rounds + 1) machine part entered

/-- `Pass element body values machine reached`: a for loop has got to its body, with one of the
values bound. -/
inductive Pass (element : String) (body : Eval Value) : List Value → Machine → Machine → Prop
  | first {value : Value} {rest : List Value} {machine : Machine} :
      Pass element body (value :: rest) machine
        { machine with scope := machine.scope.setVariable element value }
  | later {value : Value} {rest : List Value} {frame : Scope} {machine reached entered : Machine} :
      (Eval.inFrame (machine.scope.setVariable element value) body).outcome machine =
        (.ok frame, reached) →
      Pass element body rest reached entered → Pass element body (value :: rest) machine entered

/-- `Enters rounds step node machine part reached`: in its own scope, the node comes to evaluate the
part. -/
inductive Enters (rounds : Nat) (step : Node → Eval Value) :
    Node → Machine → Node → Machine → Prop
  | operand {node part : Node} {machine entered : Machine} :
      Turn step (fun _ => True) (node.operands machine.scope) machine part entered →
      Enters rounds step node machine part entered
  | statement {line : Nat} {statements : List Node} {part : Node} {machine entered : Machine} :
      Turn step (fun scope => scope.returned = false) statements machine part entered →
      Enters rounds step (.sequence line statements) machine part entered
  | branch {line : Nat} {condition thenBlock part : Node} {elseNode : Option Node} {value : Value}
      {machine reached : Machine} :
      (step condition).outcome machine = (.ok value, reached) →
      (if value.truthy then some thenBlock else elseNode) = some part →
      Enters rounds step (.conditional line condition thenBlock elseNode) machine part reached
  | round {line : Nat} {condition body part : Node} {machine entered : Machine} :
      Round step condition body rounds machine part entered →
      Enters rounds step (.whileLoop line condition body) machine part entered

/-- `Opens step node machine body reached`: the node comes to evaluate a body in a new frame. -/
inductive Opens (step : Node → Eval Value) : Node → Machine → Node → Machine → Prop
  | call {line : Nat} {name : String} {arguments : List Node} {values : List Value}
      {callee : Function} {machine reached : Machine} :
      (evaluateAll step arguments).outcome machine = (.ok values, reached) →
      reached.scope.functions.get? name = some callee →
      Opens step (.call line name arguments) machine callee.body
        ⟨reached.scope.callFrame callee values, reached.output,
          reached.events.push (.call name values.length line)⟩
  | pass {line : Nat} {element : String} {elements body : Node} {values : List Value}
      {machine reached entered : Machine} :
      (step elements).outcome machine = (.ok (.array values), reached) →
      Pass element (step body) values reached entered →
      Opens step (.forLoop line element elements body) machine body entered

def isWhile : Node → Bool
  | whileLoop .. => true
  | _ => false

end Node

def Eval.Keeps {α : Type} (relation : Scope → Scope → Prop) (action : Eval α) : Prop :=
  ∀ machine, relation machine.scope (action.outcome machine).2.scope

/-- What a relation between machines has to bring with it to hold along an evaluation, where
`inside` holds from the start to the end of what is evaluated in a frame. -/
structure Progression (relation inside : Machine → Machine → Prop) : Prop where
  refl : ∀ machine, relation machine machine
  trans : ∀ machine middle last, relation machine middle → relation middle last →
    relation machine last
  note : ∀ machine event, relation machine { machine with events := machine.events.push event }
  print : ∀ machine intrinsic levels values line,
    Intrinsic.output intrinsic levels values = .ok line →
    relation machine { machine with output := machine.output.push line }
  frame : ∀ machine frame after, inside { machine with scope := frame } after →
    relation machine { after with scope := machine.scope }

structure Eval.Meets {α : Type} (relation : Machine → Machine → Prop) (stops : Stop → Prop)
    (action : Eval α) (machine : Machine) : Prop where
  reaches : relation machine (action.outcome machine).2
  stops : ∀ stop, (action.outcome machine).1 = .error stop → stops stop

namespace Eval

variable {α β : Type} {relation inside : Machine → Machine → Prop} {stops : Stop → Prop}
  (progression : Progression relation inside) {machine : Machine}

include progression

theorem meets_pure (result : α) : (pure result : Eval α).Meets relation stops machine :=
  ⟨progression.refl machine, fun _ stopped => by cases stopped⟩

theorem meets_throw {stop : Stop} (allowed : stops stop) :
    (throw stop : Eval α).Meets relation stops machine := by
  refine ⟨progression.refl machine, fun other stopped => ?_⟩
  cases stopped
  exact allowed

theorem meets_fail (faults : ∀ fault, stops (.fault fault)) (setting : Setting) (line : Nat)
    (cause : Cause) : (setting.fail line cause : Eval α).Meets relation stops machine :=
  meets_throw progression (faults _)

theorem meets_located (faults : ∀ fault, stops (.fault fault)) (setting : Setting) (line : Nat)
    (result : Except Cause α) : (setting.located line result).Meets relation stops machine := by
  cases result with
  | ok result => exact meets_pure progression result
  | error cause => exact meets_fail progression faults setting line cause

theorem meets_note (event : Event) : (note event).Meets relation stops machine :=
  ⟨progression.note machine event, fun _ stopped => by cases stopped⟩

theorem meets_scope : scope.Meets relation stops machine :=
  ⟨progression.refl machine, fun _ stopped => by cases stopped⟩

omit progression in
theorem meets_modifyScope {change : Scope → Scope}
    (updated : relation machine { machine with scope := change machine.scope }) :
    (modifyScope change).Meets relation stops machine :=
  ⟨updated, fun _ stopped => by cases stopped⟩

theorem meets_print {intrinsic : Intrinsic} {levels : Nat} {values : List Value} {line : String}
    (printed : intrinsic.output levels values = .ok line) :
    (print line).Meets relation stops machine :=
  ⟨progression.print machine intrinsic levels values line printed,
    fun _ stopped => by cases stopped⟩

theorem Meets.bind {action : Eval α} {next : α → Eval β}
    (head : action.Meets relation stops machine)
    (tail : ∀ result reached, action.outcome machine = (.ok result, reached) →
      (next result).Meets relation stops reached) :
    (action >>= next).Meets relation stops machine := by
  obtain ⟨reaches, allowed⟩ := head
  rcases ended : action.outcome machine with ⟨stop | result, reached⟩
  · have opened : (action >>= next).outcome machine = (.error stop, reached) := by
      rw [outcome_bind, ended, andThen]
    rw [ended] at reaches allowed
    refine ⟨by rw [opened]; exact reaches, fun other stopped => ?_⟩
    rw [opened] at stopped
    cases stopped
    exact allowed stop rfl
  · have opened : (action >>= next).outcome machine = (next result).outcome reached := by
      rw [outcome_bind, ended, andThen]
    rw [ended] at reaches
    have meets := tail result reached ended
    refine ⟨?_, by rw [opened]; exact meets.stops⟩
    rw [opened]
    exact progression.trans _ _ _ reaches meets.reaches

theorem Meets.inFrame {frame : Scope} {body : Eval Value}
    (meets : body.Meets inside stops { machine with scope := frame }) :
    (inFrame frame body).Meets relation stops machine := by
  obtain ⟨reaches, allowed⟩ := meets
  constructor
  · rw [outcome_inFrame]
    exact progression.frame machine frame _ reaches
  · intro stop stopped
    rw [outcome_inFrame] at stopped
    rcases ended : (body.outcome { machine with scope := frame }).1 with other | result
    · rw [ended] at stopped
      cases stopped
      exact allowed stop ended
    · rw [ended] at stopped
      cases stopped

omit progression in
theorem keeps_throw {relation : Scope → Scope → Prop} [IsPreorder Scope relation] (stop : Stop) :
    Keeps relation (throw stop : Eval α) :=
  fun machine => refl machine.scope

end Eval

namespace Node

open Eval

section Level

variable {relation inside : Machine → Machine → Prop} {stops : Stop → Prop}
  (progression : Progression relation inside) {setting : Setting} {step : Node → Eval Value}
  {machine : Machine}

include progression

theorem evaluateSequence_meets {nodes : List Node}
    (enters : ∀ part entered, Turn step (fun scope => scope.returned = false) nodes machine part
      entered → (step part).Meets relation stops entered) :
    (evaluateSequence step nodes).Meets relation stops machine := by
  induction nodes generalizing machine with
  | nil => exact meets_pure progression ()
  | cons node rest ih =>
      refine (enters node machine .first).bind progression fun value reached ended => ?_
      refine (meets_scope progression).bind progression fun scope after read => ?_
      cases read
      by_cases returned : reached.scope.returned = true
      · rw [if_pos returned]
        exact meets_pure progression ()
      · rw [if_neg returned]
        refine ih fun part entered turn => enters part entered (.later ended ?_ turn)
        simpa using returned

theorem evaluateAll_meets {nodes : List Node}
    (enters : ∀ part entered, Turn step (fun _ => True) nodes machine part entered →
      (step part).Meets relation stops entered) :
    (evaluateAll step nodes).Meets relation stops machine := by
  induction nodes generalizing machine with
  | nil => exact meets_pure progression []
  | cons node rest ih =>
      refine (enters node machine .first).bind progression fun value reached ended => ?_
      refine (ih fun part entered turn => ?_).bind progression fun values last _ => ?_
      · exact enters part entered (.later ended trivial turn)
      · exact meets_pure progression (value :: values)

theorem evaluateWhile_meets {condition body : Node} {rounds : Nat}
    (enters : ∀ part entered, Round step condition body rounds machine part entered →
      (step part).Meets relation stops entered)
    (unfinished : stops .unfinished) (count : Nat) :
    (evaluateWhile (step condition) (step body) rounds count).Meets relation stops machine := by
  induction rounds generalizing machine count with
  | zero => exact meets_throw progression unfinished
  | succ rounds ih =>
      refine (meets_scope progression).bind progression fun scope after read => ?_
      cases read
      by_cases returned : machine.scope.returned = true
      · rw [if_pos returned]
        exact meets_pure progression count
      · rw [if_neg returned]
        have running : machine.scope.returned = false := by simpa using returned
        refine (enters condition machine (.test running)).bind progression
          fun value tested ended => ?_
        by_cases holds : value.truthy = true
        · rw [if_pos holds]
          refine (enters body tested (.body running ended holds)).bind progression
            fun result reached ran => ?_
          exact ih (fun part entered round =>
            enters part entered (.next running ended holds ran round)) (count + 1)
        · rw [if_neg holds]
          exact meets_pure progression count

theorem evaluateFor_meets {element : String} {body : Eval Value} {values : List Value}
    (opens : ∀ entered, Pass element body values machine entered →
      body.Meets inside stops entered) :
    (evaluateFor element body values).Meets relation stops machine := by
  induction values generalizing machine with
  | nil => exact meets_pure progression ()
  | cons value rest ih =>
      refine (meets_scope progression).bind progression fun scope after read => ?_
      cases read
      refine Meets.bind progression ((opens _ .first).inFrame progression)
        fun frame reached ended => ?_
      exact ih fun entered pass => opens entered (.later ended pass)

variable (faults : ∀ fault, stops (.fault fault))

include faults

theorem evaluateAssign_meets {line : Nat} {name : String} {form : Assignment} {value : Node}
    (enters : form.accepts (machine.scope.values.contains name) = true →
      (step value).Meets relation stops machine)
    (update : ∀ machine result, relation machine
      { machine with scope := machine.scope.setVariable name result }) :
    (evaluateAssign setting line name form (step value)).Meets relation stops machine := by
  have assigns (meets : (step value).Meets relation stops machine) :
      (step value >>= fun result => modifyScope (·.setVariable name result)).Meets relation stops
        machine :=
    meets.bind progression fun result reached _ => meets_modifyScope (update reached result)
  cases form with
  | define =>
      refine (meets_scope progression).bind progression fun scope after read => ?_
      cases read
      by_cases bound : machine.scope.values.contains name = true
      · rw [if_pos bound]
        exact (meets_fail progression faults _ _ _).bind progression
          fun _ _ stopped => by cases stopped
      · rw [if_neg bound]
        exact assigns (enters (by simp [Assignment.accepts, bound]))
  | replace =>
      refine (meets_scope progression).bind progression fun scope after read => ?_
      cases read
      by_cases bound : machine.scope.values.contains name = true
      · rw [if_pos bound]
        exact assigns (enters bound)
      · rw [if_neg bound]
        exact (meets_fail progression faults _ _ _).bind progression
          fun _ _ stopped => by cases stopped
  | compound text =>
      refine (enters rfl).bind progression fun operand reached _ => ?_
      refine (meets_scope progression).bind progression fun scope after read => ?_
      cases read
      cases reached.scope.values.get? name with
      | none => exact meets_fail progression faults _ _ _
      | some current =>
          refine (meets_located progression faults _ _ _).bind progression
            fun result last _ => ?_
          exact meets_modifyScope (update last result)

theorem evaluateCall_meets {line : Nat} {name : String} {arguments : List Node}
    (enters : ∀ part entered, Turn step (fun _ => True) arguments machine part entered →
      (step part).Meets relation stops entered)
    (opens : ∀ body entered, Opens step (.call line name arguments) machine body entered →
      (step body).Meets inside stops entered) :
    (evaluateCall setting step line name arguments).Meets relation stops machine := by
  refine (evaluateAll_meets progression enters).bind progression fun values reached ended => ?_
  refine (meets_scope progression).bind progression fun scope after read => ?_
  cases read
  cases found : reached.scope.functions.get? name with
  | none => exact meets_fail progression faults _ _ _
  | some callee =>
      refine (meets_note progression _).bind progression fun _ noted note => ?_
      cases note
      refine ((opens callee.body _ (.call ended found)).inFrame progression).bind progression
        fun frame last _ => ?_
      exact meets_pure progression frame.returnValue

theorem evaluateMember_meets (overflow : stops .overflow) {depth line : Nat}
    {moduleName name : String} {arguments : List Node}
    (enters : (Intrinsic.lookup? moduleName name).isSome = true → ∀ part entered,
      Turn step (fun _ => True) arguments machine part entered →
      (step part).Meets relation stops entered) :
    (evaluateMember setting depth step line moduleName name arguments).Meets relation stops
      machine := by
  unfold evaluateMember
  cases found : Intrinsic.lookup? moduleName name with
  | none => exact meets_fail progression faults _ _ _
  | some intrinsic =>
      refine (evaluateAll_meets progression (enters (by rw [found]; rfl))).bind progression
        fun values reached _ => ?_
      rcases printed : intrinsic.output (depth / 2) values with (cause | _) | text
      · exact meets_fail progression faults _ _ _
      · exact meets_throw progression overflow
      · exact (meets_print progression printed).bind progression
          fun _ _ _ => meets_pure progression _

/-- A node meets what its visits and its own update meet. It may fail, overflow in rendering and,
if it is a while loop, run out of rounds. -/
theorem evaluateLevel_meets {depth : Nat} {node : Node} (overflow : stops .overflow)
    (unfinished : node.isWhile = true → stops .unfinished)
    (enters : ∀ part entered, Enters setting.rounds step node machine part entered →
      (step part).Meets relation stops entered)
    (opens : ∀ body entered, Opens step node machine body entered →
      (step body).Meets inside stops entered)
    (updates : ∀ machine scope, node.Updates machine.scope scope →
      relation machine { machine with scope := scope }) :
    (evaluateLevel setting depth step node).Meets relation stops machine := by
  have operand {part : Node} {entered : Machine}
      (turn : Turn step (fun _ => True) (node.operands machine.scope) machine part entered) :=
    enters part entered (.operand turn)
  cases node with
  | sequence line statements =>
      refine (evaluateSequence_meets progression fun part entered turn =>
        enters part entered (.statement turn)).bind progression fun _ _ _ => ?_
      exact meets_pure progression _
  | imports | int | float | string => exact meets_pure progression _
  | assign line name form value =>
      refine (evaluateAssign_meets progression faults (fun accepted => operand ?_)
        fun machine result => updates machine _ .assign).bind progression fun _ _ _ => ?_
      · rw [operands, if_pos accepted]
        exact .first
      · exact meets_pure progression _
  | binary line op left right =>
      refine (operand .first).bind progression fun x reached ended => ?_
      refine (operand (.later ended trivial .first)).bind progression fun y last _ => ?_
      exact meets_located progression faults _ _ _
  | unary line op value =>
      exact (operand .first).bind progression fun x _ _ => meets_located progression faults _ _ _
  | reference line name =>
      refine (meets_scope progression).bind progression fun scope after read => ?_
      cases read
      cases machine.scope.values.get? name with
      | none => exact meets_fail progression faults _ _ _
      | some value => exact meets_pure progression value
  | call line name arguments =>
      exact evaluateCall_meets progression faults (fun _ _ turn => operand turn) opens
  | member line moduleName callLine name arguments =>
      refine evaluateMember_meets progression faults overflow fun found part entered turn => ?_
      refine operand ?_
      rw [operands, if_pos found]
      exact turn
  | array line elements =>
      exact (evaluateAll_meets progression fun _ _ turn => operand turn).bind progression
        fun _ _ _ => meets_pure progression _
  | returns line value =>
      cases value with
      | none =>
          exact (meets_modifyScope (updates machine _ .returnNothing)).bind progression
            fun _ _ _ => meets_pure progression _
      | some value =>
          refine (operand .first).bind progression fun result reached _ => ?_
          exact (meets_modifyScope (updates reached _ .returnValue)).bind progression
            fun _ _ _ => meets_pure progression _
  | function line name parameters body =>
      exact (meets_modifyScope (updates machine _ .function)).bind progression
        fun _ _ _ => meets_pure progression _
  | expression line value =>
      exact (operand .first).bind progression fun _ _ _ => meets_pure progression _
  | conditional line condition thenBlock elseNode =>
      refine (operand .first).bind progression fun value reached ended => ?_
      by_cases holds : value.truthy = true
      · rw [if_pos holds]
        exact enters thenBlock reached (.branch ended (by rw [if_pos holds]))
      · rw [if_neg holds]
        cases elseNode with
        | none => exact meets_pure progression _
        | some node => exact enters node reached (.branch ended (by rw [if_neg holds]))
  | whileLoop line condition body =>
      refine (evaluateWhile_meets progression (fun part entered round =>
        enters part entered (.round round)) (unfinished rfl) 0).bind progression
          fun count _ _ => ?_
      exact (meets_note progression _).bind progression fun _ _ _ => meets_pure progression _
  | forLoop line element elements body =>
      refine (operand .first).bind progression fun value reached ended => ?_
      cases value with
      | array values =>
          refine (evaluateFor_meets progression fun entered pass =>
            opens body entered (.pass ended pass)).bind progression fun _ _ _ => ?_
          exact meets_pure progression _
      | _ => exact meets_fail progression faults _ _ _
  | bare line => exact meets_fail progression faults _ _ _

end Level

/-- Only while loops count their rounds. -/
theorem evaluateLevel_of_rounds {node : Node} (loops : node.isWhile = false) (file : String)
    (rounds others : Nat) {depth : Nat} {step : Node → Eval Value} :
    evaluateLevel ⟨file, rounds⟩ depth step node =
      evaluateLevel ⟨file, others⟩ depth step node := by
  cases node with
  | whileLoop => cases loops
  | returns line value => cases value <;> rfl
  | _ => rfl

theorem Turn.mem {step : Node → Eval Value} {goesOn : Scope → Prop} {nodes : List Node}
    {part : Node} {machine entered : Machine}
    (turn : Turn step goesOn nodes machine part entered) : part ∈ nodes := by
  induction turn with
  | first => exact List.mem_cons_self
  | later _ _ _ ih => exact List.mem_cons_of_mem _ ih

theorem Round.mem {step : Node → Eval Value} {condition body part : Node} {rounds : Nat}
    {machine entered : Machine}
    (round : Round step condition body rounds machine part entered) :
    part ∈ [condition, body] := by
  induction round with
  | test => simp
  | body => simp
  | next _ _ _ _ _ ih => exact ih

theorem operands_subset_inner (scope : Scope) (node : Node) : node.operands scope ⊆ node.inner := by
  cases node with
  | assign line name form value =>
      rw [operands]
      split
      · exact List.Subset.refl _
      · exact List.nil_subset _
  | member line moduleName callLine name arguments =>
      rw [operands]
      split
      · exact List.Subset.refl _
      · exact List.nil_subset _
  | conditional => exact List.cons_subset_cons _ (List.nil_subset _)
  | sequence | whileLoop => exact List.nil_subset _
  | _ => exact List.Subset.refl _

theorem Enters.mem_inner {rounds : Nat} {step : Node → Eval Value} {node part : Node}
    {machine entered : Machine} (enters : Enters rounds step node machine part entered) :
    part ∈ node.inner := by
  cases enters with
  | operand turn => exact operands_subset_inner _ node turn.mem
  | statement turn => exact turn.mem
  | @branch _ _ _ _ _ value _ _ _ taken =>
      by_cases holds : value.truthy = true
      · rw [if_pos holds] at taken
        cases taken
        simp [inner]
      · rw [if_neg holds] at taken
        simp [inner, taken]
  | round round => exact round.mem

section Keeps

variable {relation : Scope → Scope → Prop} [IsPreorder Scope relation]

theorem progression_scopes :
    Progression (fun machine after => relation machine.scope after.scope) fun _ _ => True where
  refl machine := refl machine.scope
  trans _ _ _ head tail := IsTrans.trans _ _ _ head tail
  note machine _ := refl machine.scope
  print machine _ _ _ _ _ := refl machine.scope
  frame machine _ _ _ := refl machine.scope

/-- A node keeps what the trees below it in the same scope and its own update keep. -/
theorem evaluateLevel_keeps {setting : Setting} {depth : Nat} {step : Node → Eval Value}
    {node : Node} (kept : ∀ child ∈ node.inner, (step child).Keeps relation)
    (updates : ∀ before after, node.Updates before after → relation before after) :
    (evaluateLevel setting depth step node).Keeps relation := by
  intro machine
  have progression := @progression_scopes relation _
  have meets := @evaluateLevel_meets _ _ (fun _ => True) progression setting step machine
    (fun _ => trivial) depth node trivial (fun _ => trivial)
    (fun part entered enters => ⟨kept part enters.mem_inner entered, fun _ _ => trivial⟩)
    (fun body entered _ => ⟨trivial, fun _ _ => trivial⟩)
    fun machine scope update => updates machine.scope scope update
  exact meets.reaches

theorem Turn.keeps {step : Node → Eval Value} (kept : ∀ node, (step node).Keeps relation)
    {goesOn : Scope → Prop} {nodes : List Node} {part : Node} {machine entered : Machine}
    (turn : Turn step goesOn nodes machine part entered) :
    relation machine.scope entered.scope := by
  induction turn with
  | first => exact refl _
  | @later node _ _ _ machine _ _ ended _ _ ih =>
      have moved := kept node machine
      rw [ended] at moved
      exact IsTrans.trans _ _ _ moved ih

theorem Round.keeps {step : Node → Eval Value} (kept : ∀ node, (step node).Keeps relation)
    {condition body part : Node} {rounds : Nat} {machine entered : Machine}
    (round : Round step condition body rounds machine part entered) :
    relation machine.scope entered.scope := by
  induction round with
  | test => exact refl _
  | @body _ _ machine _ _ ended _ =>
      have tested := kept condition machine
      rw [ended] at tested
      exact tested
  | @next _ _ _ _ machine middle _ _ _ ended _ ran _ ih =>
      have tested := kept condition machine
      rw [ended] at tested
      have moved := kept body middle
      rw [ran] at moved
      exact IsTrans.trans _ _ _ tested (IsTrans.trans _ _ _ moved ih)

/-- What every evaluation keeps holds from the start of a node to the start of each tree that it
enters. -/
theorem Enters.keeps {step : Node → Eval Value} (kept : ∀ node, (step node).Keeps relation)
    {rounds : Nat} {node part : Node} {machine entered : Machine}
    (enters : Enters rounds step node machine part entered) :
    relation machine.scope entered.scope := by
  cases enters with
  | operand turn => exact turn.keeps kept
  | statement turn => exact turn.keeps kept
  | @branch _ condition _ _ _ _ _ _ ended _ =>
      have moved := kept condition machine
      rw [ended] at moved
      exact moved
  | round round => exact round.keeps kept

omit [IsPreorder Scope relation] in
/-- The body of a for loop always starts from the scope of the loop, with one value bound. -/
theorem Pass.scope_eq {element : String} {body : Eval Value} {values : List Value}
    {machine entered : Machine} (pass : Pass element body values machine entered) :
    ∃ value ∈ values, entered.scope = machine.scope.setVariable element value := by
  induction pass with
  | first => exact ⟨_, List.mem_cons_self, rfl⟩
  | later ended _ ih =>
      obtain ⟨value, member, same⟩ := ih
      rw [scope_of_inFrame ended] at same
      exact ⟨value, List.mem_cons_of_mem _ member, same⟩

end Keeps

end Node

structure Visit where
  depth : Nat
  node : Node
  machine : Machine

namespace Visit

def outcome (setting : Setting) (visit : Visit) : Except Stop Value × Machine :=
  (visit.node.evaluate setting visit.depth).outcome visit.machine

def Enters (setting : Setting) (visit part : Visit) : Prop :=
  visit.depth = part.depth + 1 ∧
    Node.Enters setting.rounds (Node.evaluate setting part.depth) visit.node visit.machine
      part.node part.machine

def Opens (setting : Setting) (visit body : Visit) : Prop :=
  visit.depth = body.depth + 1 ∧
    Node.Opens (Node.evaluate setting body.depth) visit.node visit.machine body.node body.machine

def SharesFrame (setting : Setting) : Visit → Visit → Prop :=
  Relation.ReflTransGen (Enters setting)

def Includes (setting : Setting) : Visit → Visit → Prop :=
  Relation.ReflTransGen fun visit part => visit.Enters setting part ∨ visit.Opens setting part

end Visit

end Scriptlet
