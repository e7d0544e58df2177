import ScriptGateway.Config.Engine
import ScriptGateway.Config.Executor
import ScriptGateway.Config.Logging
import ScriptGateway.Config.Server
import ScriptGateway.Log.Event
import ScriptGateway.Text.Quoted
/-!
# The whole configuration

The four parts are read in a fixed order, so of several faulty variables the first in that
order is reported. `Gateway.summary` lists what was loaded, for the log.
-/

namespace ScriptGateway.Config

/-- The configuration of a gateway. -/
structure Gateway where
  server : Server
  engine : Engine
  executor : Executor
  logging : Logging

namespace Gateway

/-- Reads the configuration from an environment, for so many processors. -/
def ofEnvironmentOn (processors : Nat) (env : Environment) : Except Error Gateway := do
  let server ← Server.ofEnvironment env
  let engine ← Engine.ofEnvironment env
  let executor ← Executor.ofEnvironment processors env
  let logging ← Logging.ofEnvironment env
  return { server, engine, executor, logging }

/-- Reads the configuration from an environment. -/
def ofEnvironment (env : Environment) : Except Error Gateway :=
  ofEnvironmentOn processors env

/-- What was loaded, one line each. -/
def summary (c : Gateway) : List String :=
  [ "Configuration loaded:",
    "  Listen: " ++ c.server.listen.toText,
    "  Document root: " ++ Text.quoted c.server.documentRoot,
    "  Entry point: " ++ c.server.entryPoint.getD "auto",
    "  Engine mode: " ++ c.engine.mode.name,
    "  PHP version: " ++ c.engine.version.getD "auto",
    "  Workers: " ++ toString c.executor.workers,
    "  Queue capacity: " ++ toString c.executor.capacity,
    match c.executor.timeout with
    | some d => "  Request timeout: " ++ toString d.seconds ++ "s"
    | none => "  Request timeout: disabled",
    "  Drain timeout: " ++ toString c.server.drainTimeout.seconds ++ "s" ]
  ++ (c.server.staticCacheControl.map ("  Static Cache-Control: " ++ ·)).toList
  ++ (if c.engine.required.isEmpty && c.engine.optional.isEmpty then []
      else ["  Extensions: required=[" ++ Text.joinTexts "," c.engine.required
        ++ "] optional=[" ++ Text.joinTexts "," c.engine.optional ++ "]"])
  ++ (c.engine.extensionDir.map fun dir => "  Extension dir: " ++ Text.quoted dir).toList

/-- The log events that report the configuration. -/
def summaryEvents (c : Gateway) : List Log.Event :=
  c.summary.map fun message => Log.gatewayEvent .info message []

end Gateway

end ScriptGateway.Config
