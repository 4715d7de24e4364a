import Scriptlet.Intrinsic
import Scriptlet.Journal
import Scriptlet.Number.Word
import Scriptlet.Scope
import Scriptlet.Value.Arithmetic

/-! Evaluation of syntax trees. An evaluation keeps its scope, its output and its journal also
when it stops early. It is bounded in two ways: by the levels of nodes and calls it may go down,
and by the rounds of each while loop. -/

namespace Scriptlet

/-- Why an evaluation stopped early: a fault of the script, no level left to go down, or no round
left for a while loop. -/
inductive Stop where
  | fault (fault : Fault)
  | overflow
  | unfinished

structure Machine where
  scope : Scope := {}
  output : Array String := #[]
  events : Array Event := #[]

abbrev Eval := ExceptT Stop (StateM Machine)

namespace Eval

def scope : Eval Scope :=
  return (← get).scope

def modifyScope (change : Scope → Scope) : Eval Unit :=
  modify fun machine => { machine with scope := change machine.scope }

def note (event : Event) : Eval Unit :=
  modify fun machine => { machine with events := machine.events.push event }

def print (line : String) : Eval Unit :=
  modify fun machine => { machine with output := machine.output.push line }

/-- Runs `body` in a frame of its own and gives the frame it leaves. The scope outside stays what
it was, also if `body` stops early. -/
def inFrame (frame : Scope) (body : Eval Value) : Eval Scope := fun machine =>
  match body { machine with scope := frame } with
  | (.ok _, after) => (.ok after.scope, { after with scope := machine.scope })
  | (.error stop, after) => (.error stop, { after with scope := machine.scope })

end Eval

structure Setting where
  file : String
  rounds : Nat

namespace Setting

def fail {α : Type} (setting : Setting) (line : Nat) (cause : Cause) : Eval α :=
  throw (.fault { cause := cause, line := some line, file := some setting.file })

def located {α : Type} (setting : Setting) (line : Nat) : Except Cause α → Eval α
  | .ok result => pure result
  | .error cause => setting.fail line cause

end Setting

namespace Node

def evaluateSequence (step : Node → Eval Value) : List Node → Eval Unit
  | [] => pure ()
  | node :: rest => do
      let _ ← step node
      if (← Eval.scope).returned then pure () else evaluateSequence step rest

def evaluateAll (step : Node → Eval Value) : List Node → Eval (List Value)
  | [] => pure []
  | node :: rest => do
      let value ← step node
      let values ← evaluateAll step rest
      return value :: values

/-- Assigns to a variable. A definition or replacement looks at the target before the value is
evaluated, a compound assignment afterwards. -/
def evaluateAssign (setting : Setting) (line : Nat) (name : String) (form : Assignment)
    (value : Eval Value) : Eval Unit := do
  match form with
  | .define =>
      if (← Eval.scope).values.contains name then setting.fail line (.redefinition name)
      let result ← value
      Eval.modifyScope (·.setVariable name result)
  | .replace =>
      unless (← Eval.scope).values.contains name do setting.fail line (.undefinedVariable name)
      let result ← value
      Eval.modifyScope (·.setVariable name result)
  | .compound text =>
      let operand ← value
      match (← Eval.scope).values.get? name with
      | none => setting.fail line (.undefinedVariable name)
      | some current =>
          let result ← setting.located line ((Assignment.operator text).apply current operand)
          Eval.modifyScope (·.setVariable name result)

def evaluateCall (setting : Setting) (step : Node → Eval Value) (line : Nat) (name : String)
    (arguments : List Node) : Eval Value := do
  let values ← evaluateAll step arguments
  let scope ← Eval.scope
  match scope.functions.get? name with
  | none => setting.fail line (.undefinedFunction name)
  | some callee =>
      Eval.note (.call name values.length line)
      let frame ← Eval.inFrame (scope.callFrame callee values) (step callee.body)
      return frame.returnValue

/-- Calls a member of a module. Rendering goes down two levels for every level of nested arrays. -/
def evaluateMember (setting : Setting) (depth : Nat) (step : Node → Eval Value) (line : Nat)
    (moduleName name : String) (arguments : List Node) : Eval Value := do
  match Intrinsic.lookup? moduleName name with
  | none => setting.fail line (.missingMember moduleName name)
  | some intrinsic =>
      let values ← evaluateAll step arguments
      match intrinsic.output (depth / 2) values with
      | .ok text =>
          Eval.print text
          return .invalid
      | .error (.cause cause) => setting.fail line cause
      | .error .tooDeep => throw .overflow

def evaluateWhile (condition body : Eval Value) : (rounds : Nat) → (count : Nat) → Eval Nat
  | 0, _ => throw .unfinished
  | rounds + 1, count => do
      if (← Eval.scope).returned then return count
      else if (← condition).truthy then
        let _ ← body
        evaluateWhile condition body rounds (count + 1)
      else return count

def evaluateFor (element : String) (body : Eval Value) : List Value → Eval Unit
  | [] => pure ()
  | value :: rest => do
      let frame := (← Eval.scope).setVariable element value
      let _ ← Eval.inFrame frame body
      evaluateFor element body rest

/-- Evaluates a node, given how to evaluate the nodes one level further down. -/
def evaluateLevel (setting : Setting) (depth : Nat) (step : Node → Eval Value) :
    Node → Eval Value
  | sequence _ statements => do
      evaluateSequence step statements
      return .invalid
  | imports _ _ => return .invalid
  | assign line name form value => do
      evaluateAssign setting line name form (step value)
      return .invalid
  | binary line op left right => do
      let x ← step left
      let y ← step right
      setting.located line (op.apply x y)
  | unary line op operand => do
      setting.located line (op.applyUnary (← step operand))
  | int _ value => return .int (Number.wrapWord value)
  | float _ value => return .float value
  | string _ value => return .string value
  | reference line name => do
      match (← Eval.scope).values.get? name with
      | some value => return value
      | none => setting.fail line (.undefinedVariable name)
  | call line name arguments => evaluateCall setting step line name arguments
  | member line moduleName _ name arguments =>
      evaluateMember setting depth step line moduleName name arguments
  | array _ elements => do
      return .array (← evaluateAll step elements)
  | returns _ none => do
      Eval.modifyScope fun scope => { scope with returned := true }
      return .invalid
  | returns _ (some value) => do
      let result ← step value
      Eval.modifyScope fun scope => { scope with returnValue := result, returned := true }
      return .invalid
  | function _ name parameters body => do
      Eval.modifyScope (·.setFunction name ⟨parameters, body⟩)
      return .invalid
  | expression _ value => do
      let _ ← step value
      return .invalid
  | conditional _ condition thenBlock elseNode => do
      if (← step condition).truthy then step thenBlock
      else
        match elseNode with
        | some node => step node
        | none => return .invalid
  | whileLoop line condition body => do
      let count ← evaluateWhile (step condition) (step body) setting.rounds 0
      Eval.note (.loop line count)
      return .invalid
  | forLoop line element elements body => do
      match ← step elements with
      | .array values =>
          evaluateFor element (step body) values
          return .invalid
      | value => setting.fail line (.notIterable value.typeName)
  | bare line => setting.fail line (.bareNode line)

def evaluate (setting : Setting) : (depth : Nat) → Node → Eval Value
  | 0, _ => throw .overflow
  | depth + 1, node => evaluateLevel setting depth (evaluate setting depth) node

end Node

inductive Ending (α : Type) where
  | finished (result : α)
  | failed (fault : Fault)
  | unfinished

/-- Runs an evaluation on a machine. Running out of levels is a fault of the script. -/
def Eval.run {α : Type} (file : String) (action : Eval α) (machine : Machine) :
    Ending α × Machine :=
  match ExceptT.run action machine with
  | (.ok result, after) => (.finished result, after)
  | (.error (.fault fault), after) => (.failed fault, after)
  | (.error .overflow, after) =>
      (.failed { cause := .stackOverflow, line := none, file := some file }, after)
  | (.error .unfinished, after) => (.unfinished, after)

end Scriptlet
