import ScriptGateway.Engine.Extensions
/-!
# Engine errors

Why the engine or the bridge did not do what it was asked to.
-/

namespace ScriptGateway.Engine

/-- An error of the engine. -/
inductive Error where
  | invalidArgument (what : String)
  | threadBusy (thread : Int32)
  | exhausted (what : String) (requested : Nat)
  | notStarted
  | startup (message : String)
  | unsupportedVersion (version : String)
  | extension (cause : ExtensionError)
  deriving DecidableEq, Repr

namespace Error

/-- The error for a script without a name. -/
def emptyScript : Error :=
  invalidArgument "script path is empty"

/-- Whether the caller is at fault. -/
def isUsage : Error → Bool
  | invalidArgument _ => true
  | threadBusy _ => true
  | _ => false

/-- Whether memory ran out. -/
def isExhausted : Error → Bool
  | exhausted _ _ => true
  | _ => false

/-- The wording of an engine error. -/
def message : Error → String
  | invalidArgument what => "invalid argument: " ++ what
  | threadBusy thread =>
    "thread index " ++ toString thread.toInt ++ " already has an active context"
  | exhausted what requested =>
    "allocation failed for " ++ what ++ " (" ++ toString requested ++ " bytes)"
  | notStarted => "engine not started"
  | startup message => "engine startup failed: " ++ message
  | unsupportedVersion version => "unsupported PHP version: " ++ version
  | extension cause => "loading extensions: " ++ cause.message

/-- The wordings of what caused the error, outermost first. -/
def causes : Error → List String
  | extension cause => [cause.message]
  | _ => []

end Error

end ScriptGateway.Engine
