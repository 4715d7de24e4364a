import Scriptlet.Fault
import Scriptlet.Value.Render

/-! Members of modules that are built into the language. -/

namespace Scriptlet

inductive Intrinsic where
  | println
  deriving DecidableEq, Repr

namespace Intrinsic

def lookup? (moduleName member : String) : Option Intrinsic :=
  if moduleName == "io" && member == "println" then some println else none

def printedLine (text : String) : String :=
  "dbg out: " ++ text ++ "\n"

inductive Failure where
  | cause (cause : Cause)
  | tooDeep

def output (intrinsic : Intrinsic) (levels : Nat) (arguments : List Value) :
    Except Failure String :=
  match intrinsic, arguments with
  | println, [value] =>
      match value.render levels with
      | .ok text => .ok (printedLine text)
      | .error .invalid => .error (.cause .unrenderable)
      | .error .tooDeep => .error .tooDeep
  | println, _ => .error (.cause (.argumentCount arguments.length))

end Intrinsic

end Scriptlet
