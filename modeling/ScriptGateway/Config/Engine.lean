import ScriptGateway.Config.Environment
import ScriptGateway.Engine.Mode
/-!
# Configuration of the engine

The execution mode, the interpreter's version and the extensions to load.
-/

namespace ScriptGateway.Config

/-- The mode asked for; `auto` takes the interpreter if there is one. -/
inductive ModeChoice where
  | auto
  | full
  | fallback
  deriving DecidableEq, Repr

namespace ModeChoice

/-- Reads a mode, in any case and with white space around it. -/
def read (s : String) : Except Error ModeChoice :=
  let word := String.ofList (Text.lowerChars (Text.trimChars s.toList))
  if word = "" || word = "auto" then .ok auto
  else if word = "full" then .ok full
  else if word = "fallback" then .ok fallback
  else .error (.rejected "ENGINE_MODE" (.unknownMode word))

/-- The mode to run in. Asking for an interpreter that is not there is an error. -/
def resolve : ModeChoice → Except Error ScriptGateway.Engine.Mode
  | auto => .ok (if ScriptGateway.Engine.interpreterIncluded then .full else .fallback)
  | fallback => .ok .fallback
  | full =>
    if ScriptGateway.Engine.interpreterIncluded then .ok .full
    else .error (.rejected "ENGINE_MODE" .noInterpreter)

end ModeChoice

/-- Mode, version and extensions. -/
structure Engine where
  mode : ScriptGateway.Engine.Mode
  /-- The interpreter version; none means to choose one for the project. -/
  version : Option String
  /-- Where extensions lie, if not at the usual place. -/
  extensionDir : Option String
  required : List String
  optional : List String
  deriving DecidableEq, Repr

/-- Reads the engine's part of the configuration. -/
def Engine.ofEnvironment (env : Environment) : Except Error Engine := do
  let choice ← ModeChoice.read (env.getD "ENGINE_MODE" "auto")
  let mode ← choice.resolve
  return {
    mode
    version := env.chosen? "PHP_VERSION"
    extensionDir := env.nonempty? "PHP_EXTENSION_DIR"
    required := env.list "PHP_EXTENSIONS"
    optional := env.list "PHP_EXTENSIONS_OPTIONAL" }

end ScriptGateway.Config
