/-!
# JSON values

Log lines and health pages are JSON texts, and a project file is read as one. An object
keeps its fields in the order given; whole numbers and floating-point numbers are told
apart, since they are written differently.
-/

namespace ScriptGateway.Json

/-- A JSON value. -/
inductive Value where
  | null
  | bool (b : Bool)
  | int (n : Int)
  | float (x : Float)
  | text (s : String)
  | list (items : List Value)
  | object (fields : List (String × Value))
  deriving Inhabited

namespace Value

/-- The value of the last field of that name. -/
def field? (name : String) : Value → Option Value
  | object fields => (fields.reverse.find? fun (key, _) => key == name).map (·.2)
  | _ => none

/-- The text, if it is one. -/
def asText? : Value → Option String
  | text s => some s
  | _ => none

/-- The number, if it is a whole one and not negative. -/
def asNat? : Value → Option Nat
  | int (.ofNat n) => some n
  | _ => none

end Value

end ScriptGateway.Json
