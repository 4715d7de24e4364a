import Scriptlet.Script

/-! Sessions: source texts run one after the other in a scope that lives on, whatever each of them
ends in. Copies of the scope can be laid on top of it and taken off again. -/

namespace Scriptlet

/-- `top` is the scope in use, `below` are the scopes under it. -/
structure Session where
  top : Scope := {}
  below : List Scope := []

namespace Session

def push (session : Session) : Session :=
  { session with below := session.top :: session.below }

def pop (session : Session) : Session :=
  match session.below with
  | scope :: rest => ⟨scope, rest⟩
  | [] => session

def run (session : Session) (bounds : Bounds) (file source : String) :
    Ending Value × Machine × Session :=
  let (ending, machine) := Script.run bounds file source session.top
  (ending, machine, { session with top := machine.scope })

end Session

end Scriptlet
