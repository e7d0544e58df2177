import ScriptGateway.Config.TimeSpan
/-!
# Configuration errors

An error names the variable at fault. Either its text could not be read as the kind of value
it should hold, or the value was read and is not accepted.
-/

namespace ScriptGateway.Config

/-- Why a variable's text could not be read. -/
inductive Unreadable where
  | address
  | timeSpan (e : TimeSpanError)
  | number (e : Decimal.ReadError)
  deriving DecidableEq, Repr

/-- Why a value is not accepted. -/
inductive Rejection where
  | unknownMode (given : String)
  | noInterpreter
  | unknownFormat (given : String)
  deriving DecidableEq, Repr

/-- A configuration error. -/
inductive Error where
  | unreadable (key value : String) (cause : Unreadable)
  | rejected (key : String) (cause : Rejection)
  deriving DecidableEq, Repr

/-- The wording of a reading failure. -/
def Unreadable.message : Unreadable → String
  | .address => "invalid socket address syntax"
  | .timeSpan e => e.message
  | .number e => e.message

/-- The wording of a rejection. -/
def Rejection.message : Rejection → String
  | .unknownMode given => "expected auto, full or fallback, got '" ++ given ++ "'"
  | .noInterpreter => "full mode requires a build with the php-embed feature"
  | .unknownFormat given => "expected json or text, got '" ++ given ++ "'"

namespace Error

/-- The variable at fault. -/
def key : Error → String
  | unreadable key _ _ => key
  | rejected key _ => key

/-- The wording of a configuration error. -/
def message : Error → String
  | unreadable key value cause =>
    "failed to parse " ++ key ++ "='" ++ value ++ "': " ++ cause.message
  | rejected key cause => "invalid value for " ++ key ++ ": " ++ cause.message

end Error

end ScriptGateway.Config
