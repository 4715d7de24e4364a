/-! Values a script computes with. -/

namespace Scriptlet

/-- `invalid` marks that no value was produced. -/
inductive Value where
  | nil
  | invalid
  | bool (value : Bool)
  | int (value : Int)
  | float (value : Float)
  | string (value : String)
  | array (elements : List Value)
  deriving Inhabited

namespace Value

def typeName : Value → String
  | nil => "Nil"
  | invalid => "Invalid"
  | bool _ => "Bool"
  | int _ => "Int"
  | float _ => "Float"
  | string _ => "String"
  | array _ => "Array"

/-- What a condition makes of a value; a float that is not a number counts as true. -/
def truthy : Value → Bool
  | nil | invalid => false
  | bool value => value
  | int value => value != 0
  | float value => value != 0.0
  | string value => !value.isEmpty
  | array elements => !elements.isEmpty

end Value

end Scriptlet
