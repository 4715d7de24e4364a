import Scriptlet.Fault
import Scriptlet.Number.Word
import Scriptlet.Value

/-! Applying operators to values. Integers and floats do not mix, and an integer result has to fit
the signed 64-bit range. -/

namespace Scriptlet

def Value.checked (op : Operator) (n : Int) : Except Cause Value :=
  if Number.fitsWord n then .ok (.int n) else .error (.integerOverflow op)

namespace Operator

def quotient (op : Operator) (x y : Int) : Except Cause Int :=
  if y == 0 then .error (.divisionByZero op) else .ok (x.tdiv y)

/-- A power whose exponent counts modulo `2 ^ 32`. A base other than 0, 1 and -1 leaves the range
before its 64th power. -/
def raise (x y : Int) : Except Cause Value :=
  let exponent := (y % Int.pow 2 32).toNat
  if exponent == 0 then .ok (.int 1)
  else if x == 0 || x == 1 then .ok (.int x)
  else if x == -1 then .ok (.int (if exponent % 2 == 1 then -1 else 1))
  else if 64 ≤ exponent then .error (.integerOverflow power)
  else Value.checked power (x.pow exponent)

def unsupported (op : Operator) : Except Cause Value :=
  .error (.unsupportedOperands op.text op.undertaking)

def applyInts (op : Operator) (x y : Int) : Except Cause Value :=
  match op with
  | add => Value.checked op (x + y)
  | subtract => Value.checked op (x - y)
  | multiply => Value.checked op (x * y)
  | divide => do Value.checked op (← quotient op x y)
  | modulo => do return .int (x - y * (← quotient op x y))
  | power => raise x y
  | equal => .ok (.bool (x == y))
  | notEqual => .ok (.bool (x != y))
  | greater => .ok (.bool (x > y))
  | less => .ok (.bool (x < y))
  | greaterEqual => .ok (.bool (x ≥ y))
  | lessEqual => .ok (.bool (x ≤ y))
  | and | or | not | unknown _ => unsupported op

def applyFloats (op : Operator) (x y : Float) : Except Cause Value :=
  match op with
  | add => .ok (.float (x + y))
  | subtract => .ok (.float (x - y))
  | multiply => .ok (.float (x * y))
  | divide => .ok (.float (x / y))
  | modulo => .ok (.float (Number.Binary64.remainder x y))
  | power => .ok (.float (Float.pow x y))
  | equal => .ok (.bool (x == y))
  | notEqual => .ok (.bool (x != y))
  | greater => .ok (.bool (x > y))
  | less => .ok (.bool (x < y))
  | greaterEqual => .ok (.bool (x ≥ y))
  | lessEqual => .ok (.bool (x ≤ y))
  | and | or | not | unknown _ => unsupported op

def applyPresent (op : Operator) (left right : Value) : Except Cause Value :=
  match op, left, right with
  | not, _, _ | unknown _, _, _ => .ok .invalid
  | op, .int x, .int y => op.applyInts x y
  | op, .float x, .float y => op.applyFloats x y
  | add, .string x, .string y => .ok (.string (x ++ y))
  | and, .bool x, .bool y => .ok (.bool (x && y))
  | or, .bool x, .bool y => .ok (.bool (x || y))
  | op, _, _ => unsupported op

/-- A binary operator. A nil operand makes the result nil whatever the operator is; a text that is
no binary operator produces no value. -/
def apply (op : Operator) (left right : Value) : Except Cause Value :=
  match left, right with
  | .nil, _ | _, .nil => .ok .nil
  | _, _ => op.applyPresent left right

def applyUnary (op : Operator) (operand : Value) : Except Cause Value :=
  match op, operand with
  | not, .bool value => .ok (.bool !value)
  | subtract, .int value => Value.checked op (-value)
  | subtract, .float value => .ok (.float (-value))
  | _, _ =>
      .error (.unsupportedOperands op.text ("unary operator " ++ op.text ++ " on given type"))

end Operator

end Scriptlet
