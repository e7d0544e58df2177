/-!
# Log events

An event has a target, which tells who speaks, a level and named values. A value was given
either as a text, as something shown through its printed form, or as a number or a truth
value; the difference matters for the message only.
-/

namespace ScriptGateway.Log

/-- How grave an event is. -/
inductive Level where
  | trace
  | debug
  | info
  | warn
  | error
  deriving DecidableEq, Repr

/-- A recorded value. -/
inductive FieldValue where
  | text (s : String)
  | shown (s : String)
  | int (n : Int)
  | float (x : Float)
  | bool (b : Bool)

/-- One event, its values in the order recorded. -/
structure Event where
  target : String
  level : Level
  fields : List (String × FieldValue)

/-- The target of the gateway's own events. -/
def gatewayTarget : String := "php_embed_bridge"

/-- The target of interpreter messages. -/
def interpreterTarget : String := "php"

/-- The target of access records. -/
def accessTarget : String := "access"

/-- An event of the gateway: its message, as a formatted text, and then its other values. -/
def gatewayEvent (level : Level) (message : String) (fields : List (String × FieldValue)) : Event :=
  { target := gatewayTarget, level, fields := ("message", .shown message) :: fields }

end ScriptGateway.Log
