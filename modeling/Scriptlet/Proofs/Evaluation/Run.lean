import Scriptlet.Evaluation

/-!
How evaluations run. An evaluation ends in a result or in a stop and leaves a machine in both
cases; its outcome is the two together.
-/

namespace Scriptlet

namespace Eval

variable {α β : Type}

def outcome (action : Eval α) (machine : Machine) : Except Stop α × Machine :=
  ExceptT.run action machine

def andThen (ended : Except Stop α × Machine) (next : α → Eval β) : Except Stop β × Machine :=
  match ended with
  | (.ok result, machine) => (next result).outcome machine
  | (.error stop, machine) => (.error stop, machine)

theorem outcome_bind (action : Eval α) (next : α → Eval β) (machine : Machine) :
    outcome (action >>= next) machine = andThen (action.outcome machine) next := by
  have opened : outcome (action >>= next) machine =
      ExceptT.bindCont next (action.outcome machine).1 (action.outcome machine).2 := rfl
  rw [opened]
  rcases action.outcome machine with ⟨_ | _, _⟩ <;> rfl

@[simp] theorem outcome_pure (result : α) (machine : Machine) :
    outcome (pure result) machine = (.ok result, machine) :=
  rfl

@[simp] theorem outcome_throw (stop : Stop) (machine : Machine) :
    outcome (throw stop : Eval α) machine = (.error stop, machine) :=
  rfl

@[simp] theorem outcome_scope (machine : Machine) :
    scope.outcome machine = (.ok machine.scope, machine) :=
  rfl

@[simp] theorem outcome_modifyScope (change : Scope → Scope) (machine : Machine) :
    (modifyScope change).outcome machine =
      (.ok (), { machine with scope := change machine.scope }) :=
  rfl

@[simp] theorem outcome_note (event : Event) (machine : Machine) :
    (note event).outcome machine = (.ok (), { machine with events := machine.events.push event }) :=
  rfl

@[simp] theorem outcome_print (line : String) (machine : Machine) :
    (print line).outcome machine = (.ok (), { machine with output := machine.output.push line }) :=
  rfl

theorem outcome_inFrame (frame : Scope) (body : Eval Value) (machine : Machine) :
    (inFrame frame body).outcome machine =
      ((body.outcome { machine with scope := frame }).1.map
          fun _ => (body.outcome { machine with scope := frame }).2.scope,
        { (body.outcome { machine with scope := frame }).2 with scope := machine.scope }) := by
  have opened : (inFrame frame body).outcome machine = inFrame frame body machine := rfl
  rw [opened, inFrame, show body { machine with scope := frame } =
    body.outcome { machine with scope := frame } from rfl]
  rcases body.outcome { machine with scope := frame } with ⟨_ | _, _⟩ <;> rfl

theorem scope_of_inFrame {frame left : Scope} {body : Eval Value} {machine reached : Machine}
    (ended : (inFrame frame body).outcome machine = (.ok left, reached)) :
    reached.scope = machine.scope := by
  rw [outcome_inFrame] at ended
  exact congrArg (fun ended => ended.2.scope) ended.symm

def ending (file : String) : Except Stop α → Ending α
  | .ok result => .finished result
  | .error (.fault fault) => .failed fault
  | .error .overflow => .failed { cause := .stackOverflow, line := none, file := some file }
  | .error .unfinished => .unfinished

theorem run_eq_outcome (file : String) (action : Eval α) (machine : Machine) :
    run file action machine =
      (ending file (action.outcome machine).1, (action.outcome machine).2) := by
  unfold run outcome
  rcases ExceptT.run action machine with ⟨(_ | _ | _) | _, _⟩ <;> rfl

theorem fault_of_ending {file : String} {result : Except Stop α} {fault : Fault}
    (failed : ending file result = .failed fault) :
    result = .error (.fault fault) ∨ fault = ⟨.stackOverflow, none, some file⟩ := by
  rcases result with (_ | _ | _) | _
  · cases failed
    exact .inl rfl
  · cases failed
    exact .inr rfl
  · cases failed
  · cases failed

end Eval

@[simp] theorem Setting.outcome_fail {α : Type} (setting : Setting) (line : Nat) (cause : Cause)
    (machine : Machine) :
    (setting.fail line cause : Eval α).outcome machine =
      (.error (.fault { cause := cause, line := some line, file := some setting.file }), machine) :=
  rfl

end Scriptlet
