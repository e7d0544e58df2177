import ScriptGateway.Engine.Bridge
import ScriptGateway.Project.Version
/-!
# The engine's life

An engine starts its interpreter, loads the extensions, and only then executes scripts. Both
starting and stopping do nothing if they are not needed. What the interpreter answers when it
is started is given from outside.

* `Engine.startup` and `Engine.shutdown` list the calls they make on the interpreter.
* `Engine.begin?` refuses to execute on an engine that is not started.
-/

namespace ScriptGateway

open Script (Context Host Session)

/-- A version, a bridge, and whether scripts may be executed. -/
structure Engine where
  version : String
  bridge : Engine.Bridge
  extensions : Option Engine.Extensions
  started : Bool
  deriving DecidableEq, Repr

namespace Engine

/-- An engine for a version that is supported. -/
def new? (version : String) (bridge : Bridge) (extensions : Option Extensions) :
    Except Error Engine :=
  if Project.Version.isSupported version then
    .ok { version, bridge, extensions, started := false }
  else .error (.unsupportedVersion version)

/-- A call on the interpreter. -/
inductive InterpreterCall where
  | startup (version : String)
  | shutdown
  deriving DecidableEq, Repr

/-- What came of a start or a stop. -/
structure Transition where
  engine : Engine
  failure : Option Error
  /-- The calls made on the interpreter, in order. -/
  calls : List InterpreterCall
  events : List Log.Event

/-- The event that reports a start. -/
def startedEvent (e : Engine) : Log.Event :=
  Log.gatewayEvent .info "Engine started"
    [("version", .shown e.version), ("mode", .shown e.bridge.backend.mode.name),
      ("backend", .text e.bridge.backend.name)]

/-- Loads the extensions into an interpreter that came up. The interpreter is stopped again if
a required one fails. -/
def startExtensions (tree : Files.Tree) (e : Engine) : Transition :=
  let calls := [InterpreterCall.startup e.version]
  match e.extensions with
  | none =>
    { engine := { e with started := true }, failure := none, calls, events := [e.startedEvent] }
  | some extensions =>
    let loading := extensions.loadAll tree
    let e := { e with extensions := some loading.extensions }
    match loading.failure with
    | some err =>
      { engine := e, failure := some (.extension err), calls := calls ++ [.shutdown]
        events := loading.events }
    | none =>
      { engine := { e with started := true }, failure := none, calls
        events := loading.events ++ [e.startedEvent] }

/-- Starts the engine; `answer` is what the interpreter answers if it is started. -/
def startup (tree : Files.Tree) (answer : Except String Unit) (e : Engine) : Transition :=
  if e.started then { engine := e, failure := none, calls := [], events := [] }
  else
    match e.bridge.backend with
    | .fallback =>
      { engine := { e with started := true }, failure := none, calls := []
        events := [e.startedEvent] }
    | .interpreter _ =>
      match answer with
      | .error message =>
        { engine := e, failure := some (.startup message), calls := [.startup e.version]
          events := [] }
      | .ok () => e.startExtensions tree

/-- The list of thread indices as a log value. -/
def threadList (threads : List Int32) : String :=
  "[" ++ Text.joinTexts ", " (threads.map fun t => toString t.toInt) ++ "]"

/-- Stops the engine and forgets its extensions. Threads that still execute are reported. -/
def shutdown (e : Engine) : Transition :=
  if !e.started then { engine := e, failure := none, calls := [], events := [] }
  else
    let active := e.bridge.active.bindings.map (·.1)
    { engine := { e with started := false, extensions := e.extensions.map Extensions.unloadAll }
      failure := none
      calls := match e.bridge.backend with
        | .fallback => []
        | .interpreter _ => [.shutdown]
      events :=
        (if active.isEmpty then []
          else [Log.gatewayEvent .warn "Engine shutdown with active contexts"
            [("active", .shown (threadList active))]])
        ++ [Log.gatewayEvent .info "Engine shutdown complete" [("version", .shown e.version)]] }

variable {σ : Type}

/-- Begins an execution on an engine that is started. -/
def begin? (h : Host σ) (e : Engine) (c : Context) (script : String) (host : σ) :
    Except Error (Engine × Session σ) :=
  if !e.started then .error .notStarted
  else (e.bridge.begin? h c script host).map fun (bridge, s) => ({ e with bridge }, s)

/-- All that an execution on an engine leaves behind. -/
structure Execution (σ : Type) where
  outcome : Bridge.Outcome
  engine : Engine
  context : Context
  host : σ

/-- Executes a script on an engine. -/
def execute (h : Host σ) (interpreter : Script.Interpreter) (e : Engine) (c : Context)
    (script : String) (host : σ) : Execution σ :=
  if !e.started then { outcome := .refused .notStarted, engine := e, context := c, host }
  else
    let x := e.bridge.execute h interpreter c script host
    { outcome := x.outcome, engine := { e with bridge := x.bridge }, context := x.context
      host := x.host }

end Engine

end ScriptGateway
