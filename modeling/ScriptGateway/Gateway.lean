import ScriptGateway.Config.Gateway
import ScriptGateway.Executor.Machine
import ScriptGateway.Project.Detection
import ScriptGateway.Site.Dispatch
import ScriptGateway.Site.Drain
/-!
# Starting and stopping a gateway

A start finds out about the project in the document root, starts the engine, puts an executor
on it and sets up what answers requests. A stop stops the engine.

* `Gateway.start` gives the gateway, or why there is none, and what is logged on the way.
* `Gateway.stop` gives what is logged at the end.
-/

namespace ScriptGateway

/-- A gateway that was started. -/
structure Gateway where
  front : Front
  executor : Executor.State
  /-- How long a stop waits for connections. -/
  drainTimeout : Duration

namespace Gateway

/-- The version of the gateway. -/
def packageVersion : String := "0.1.0"

/-- The location that an absolute path names. -/
def locationOf (path : String) : Files.Location :=
  (Files.segments path.toList).map String.ofList

/-- The event that reports the project. -/
def projectEvent (version entryPoint : String) (framework : Project.Framework) : Log.Event :=
  Log.gatewayEvent .info "Project detected"
    [("version", .shown version), ("entry_point", .shown entryPoint),
      ("framework", .shown framework.name)]

/-- The engine that a configuration asks for, not started yet. It has extensions only if some
are configured. -/
def engineOf (c : Config.Engine) (version : String) : Except Engine.Error Engine := do
  let bridge ← Engine.Bridge.ofMode? c.mode
  let extensions := Engine.Extensions.configure version c.required c.optional
  let extensions := { extensions with directory := c.extensionDir.getD extensions.directory }
  Engine.new? version bridge (if extensions.isEmpty then none else some extensions)

/-- The event that reports an executor. -/
def executorEvent (s : Executor.State) : Log.Event :=
  Log.gatewayEvent .info
    ("Executor ready (" ++ toString s.pool.settings.workers ++ " workers, mode: "
      ++ s.core.engine.bridge.backend.mode.name ++ ")") []

/-- Starts a gateway on the files that are there. What the interpreter answers when it is
started is given from outside. -/
def start (c : Config.Gateway) (tree : Files.Tree) (answer : Except String Unit) :
    List Log.Event × Except Engine.Error Gateway :=
  let location := locationOf c.server.documentRoot
  let root : Project.Root := { tree, directory := location }
  let version := root.version (c.engine.version.getD "auto")
  let entryPoint := root.entryPoint (c.server.entryPoint.getD "auto")
  let events :=
    Log.gatewayEvent .info ("Starting php_embed_bridge " ++ packageVersion) []
      :: c.summaryEvents ++ [projectEvent version entryPoint root.framework]
  match engineOf c.engine version with
  | .error e => (events, .error e)
  | .ok engine =>
    let t := engine.startup tree answer
    match t.failure with
    | some e =>
      (events ++ t.events
        ++ [Log.gatewayEvent .error ("Engine startup failed: " ++ e.message) []], .error e)
    | none =>
      let executor := Executor.State.new t.engine Config.processors c.executor.workers
        c.executor.capacity c.executor.timeout
      let (cacheControl, ignored) := Asset.cacheControl c.server.staticCacheControl
      (events ++ t.events ++ [executorEvent executor] ++ ignored, .ok
        { front :=
            { site := .new c.server.documentRoot entryPoint, tree, root := location, cacheControl }
          executor
          drainTimeout := c.server.drainTimeout })

/-- What is logged when a gateway is stopped: so many connections were active when it was last
looked, and so many are still open. -/
def stop (g : Gateway) (active stillOpen : Nat) : List Log.Event :=
  Log.gatewayEvent .info "Shutting down..." []
    :: Connections.drainEvents active stillOpen
    ++ g.executor.core.engine.shutdown.events
    ++ [Log.gatewayEvent .info "Shutdown complete" []]

end Gateway

end ScriptGateway
