/-!
# Execution modes

Scripts run on an interpreter, or a fixed page is answered in their place.
-/

namespace ScriptGateway.Engine

/-- How scripts are executed. -/
inductive Mode where
  | full
  | fallback
  deriving DecidableEq, Repr

/-- The word for a mode. -/
def Mode.name : Mode → String
  | .full => "full"
  | .fallback => "fallback"

/-- Whether an interpreter comes with the gateway. This one has none; a host program may
supply its own. -/
def interpreterIncluded : Bool := false

end ScriptGateway.Engine
