import ScriptGateway.Config.Environment
/-!
# Configuration of logging

`LOG_LEVEL` sets one level for every target and wins over a filter in `RUST_LOG`; a level
that is none of the five words is passed over.
-/

namespace ScriptGateway.Config

/-- The form of log lines. -/
inductive LogFormat where
  | json
  | text
  deriving DecidableEq, Repr

/-- Reads a log format, in any case and with white space around it. -/
def LogFormat.read (s : String) : Except Error LogFormat :=
  let word := String.ofList (Text.lowerChars (Text.trimChars s.toList))
  if word = "" || word = "json" then .ok json
  else if word = "text" || word = "pretty" then .ok text
  else .error (.rejected "LOG_FORMAT" (.unknownFormat word))

/-- Filter, format and the name of the service in log lines. -/
structure Logging where
  filter : String
  format : LogFormat
  service : String
  deriving DecidableEq, Repr

namespace Logging

/-- The five words for a level. -/
def levelWords : List String :=
  ["trace", "debug", "info", "warn", "error"]

/-- The filter that lets one level through for every target. -/
def filterFor (level : String) : String :=
  "php_embed_bridge=" ++ level ++ ",php=" ++ level ++ ",access=" ++ level

/-- The configuration without any variable. -/
def default : Logging :=
  { filter := filterFor "info", format := .json, service := "php_embed_bridge" }

/-- A word for a level, if the text is one in any case and with white space around it. -/
def levelWord? (s : String) : Option String :=
  let word := String.ofList (Text.lowerChars (Text.trimChars s.toList))
  if word ∈ levelWords then some word else none

/-- The filter for a level and a filter given. -/
def settleFilter (level given : Option String) : String :=
  match level.bind levelWord? with
  | some word => filterFor word
  | none =>
    match given with
    | some filter => if Text.trimChars filter.toList = [] then filterFor "info" else filter
    | none => filterFor "info"

/-- Reads the logging part of the configuration. -/
def ofEnvironment (env : Environment) : Except Error Logging := do
  let format ← LogFormat.read (env.getD "LOG_FORMAT" "json")
  return {
    filter := settleFilter (env "LOG_LEVEL") (env "RUST_LOG")
    format
    service := env.getD "SERVICE_NAME" "php_embed_bridge" }

end Logging

end ScriptGateway.Config
