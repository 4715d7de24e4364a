import Scriptlet.Node
import Scriptlet.Value

/-! Scopes: the variables and functions a script can see, and whether it has returned. -/

namespace Scriptlet

/-- Values by name, in the order in which the names were first bound. -/
structure Bindings (α : Type) where
  entries : List (String × α) := []

namespace Bindings

variable {α : Type}

def find? (name : String) : List (String × α) → Option α
  | [] => none
  | (key, value) :: rest => if key == name then some value else find? name rest

def get? (bindings : Bindings α) (name : String) : Option α :=
  find? name bindings.entries

def contains (bindings : Bindings α) (name : String) : Bool :=
  (bindings.get? name).isSome

def put (name : String) (value : α) : List (String × α) → List (String × α)
  | [] => [(name, value)]
  | (key, old) :: rest =>
      if key == name then (key, value) :: rest else (key, old) :: put name value rest

def insert (bindings : Bindings α) (name : String) (value : α) : Bindings α :=
  ⟨put name value bindings.entries⟩

def sorted (bindings : Bindings α) : List (String × α) :=
  bindings.entries.mergeSort fun left right => left.1 ≤ right.1

end Bindings

structure Function where
  parameters : List String
  body : Node

/-- What one frame of a run can see. `returned` is set by a return statement, and ends the
sequence of statements it stands in. -/
structure Scope where
  values : Bindings Value := {}
  functions : Bindings Function := {}
  returnValue : Value := .invalid
  returned : Bool := false

namespace Scope

def setVariable (scope : Scope) (name : String) (value : Value) : Scope :=
  { scope with values := scope.values.insert name value }

def setFunction (scope : Scope) (name : String) (function : Function) : Scope :=
  { scope with functions := scope.functions.insert name function }

def setVariables (scope : Scope) (names : List String) (values : List Value) : Scope :=
  (names.zip values).foldl (fun scope binding => scope.setVariable binding.1 binding.2) scope

def callFrame (scope : Scope) (function : Function) (arguments : List Value) : Scope :=
  { scope with returnValue := .invalid, returned := false }.setVariables function.parameters
    arguments

end Scope

end Scriptlet
