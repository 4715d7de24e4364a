import Scriptlet.Number.Style
import Scriptlet.Value

/-! The text a script prints for a value. -/

namespace Scriptlet.Value

/-- Printed floats have no exponent: an integral one shows every digit of its exact value, any
other its shortest decimal. -/
def floatStyle : Number.Style where
  nan := "NaN"
  infinity := "inf"
  exact := true
  point := false
  positional := fun _ => true

inductive Obstacle where
  | invalid
  | tooDeep
  deriving DecidableEq, Repr

mutual

/-- The text of a value whose arrays nest at most `levels` deep. Every element of an array is
followed by a comma and a space. The first obstacle met from the left stops the rendering. -/
def render (levels : Nat) : Value → Except Obstacle String
  | nil => .ok "Nil"
  | invalid => .error .invalid
  | bool value => .ok (if value then "true" else "false")
  | int value => .ok (toString value)
  | float value => .ok (floatStyle.write value)
  | string value => .ok value
  | array elements =>
      match levels with
      | 0 => .error .tooDeep
      | levels + 1 =>
          match renderAll levels elements with
          | .ok text => .ok ("[" ++ text ++ "]")
          | .error obstacle => .error obstacle

def renderAll (levels : Nat) : List Value → Except Obstacle String
  | [] => .ok ""
  | value :: rest =>
      match render levels value with
      | .error obstacle => .error obstacle
      | .ok first =>
          match renderAll levels rest with
          | .error obstacle => .error obstacle
          | .ok others => .ok (first ++ ", " ++ others)

end

end Scriptlet.Value
