import ScriptGateway.Engine.Lifecycle
import ScriptGateway.Executor.WorkerHost
import ScriptGateway.Pool.Machine
/-!
# Running one request on a worker

A worker builds a context for the request, clears its slot of the host, executes the script
on the engine and takes the slot's notes. If the interpreter panics the notes stay where they
are until the slot is cleared again.

* `Core.enter` and `Core.leave` stand before and after the interpreter's run.
* `Core.runScript` puts them together for an interpreter given as a program.
-/

namespace ScriptGateway.Executor

open Script (Context Session)

/-- The result of a request that ran. -/
structure Result where
  response : Script.Response
  /-- The thread index of the worker. -/
  thread : Int32
  /-- How many variables the host was told. -/
  varCount : Nat
  /-- How many messages the interpreter logged. -/
  logCount : Nat
  deriving DecidableEq, Repr

/-- What a worker's handler comes to. -/
abbrev HandlerOutcome := Pool.Outcome (Except Engine.Error Result)

/-- The thread index of a worker. -/
def threadOf (worker : Nat) : Int32 :=
  if worker < 2147483648 then Int32.ofNat worker else Int32.maxValue

/-- What all workers share: the engine and the host. -/
structure Core where
  engine : Engine
  host : WorkerHost

namespace Core

/-- Takes a worker's notes and makes the result of a response. -/
def collect (host : WorkerHost) (thread : Int32) (outcome : Engine.Bridge.Outcome) :
    HandlerOutcome × WorkerHost :=
  match outcome with
  | .panicked message => (.panicked message, host)
  | .refused e => (.returned (.error e), (host.finish thread).2)
  | .answered response =>
    let (slot, host) := host.finish thread
    (.returned (.ok
      { response, thread, varCount := slot.vars.length, logCount := slot.logCount }), host)

/-- Begins a request on a worker: a session on which the interpreter may run, or at once the
outcome if the engine refuses. -/
def enter (c : Core) (worker : Nat) (request : Script.Request) :
    Core × Except HandlerOutcome (Session WorkerHost) :=
  let thread := threadOf worker
  let host := c.host.begin thread request.cookies
  match c.engine.begin? WorkerHost.operations (request.context thread) request.script host with
  | .ok (engine, session) => ({ engine, host := session.host }, .ok session)
  | .error e =>
    let (outcome, host) := collect host thread (.refused e)
    ({ c with host }, .error outcome)

/-- Ends a request on a worker. -/
def leave (c : Core) (worker : Nat) (ending : Script.Ending) (session : Session WorkerHost) :
    HandlerOutcome × Core :=
  let (outcome, bridge, session) := c.engine.bridge.conclude WorkerHost.operations ending session
  let (outcome, host) := collect session.host (threadOf worker) outcome
  (outcome, { engine := { c.engine with bridge }, host })

/-- Runs a request on a worker, with nothing else going on. -/
def runScript (interpreter : Script.Interpreter) (c : Core) (worker : Nat)
    (request : Script.Request) : HandlerOutcome × Core :=
  match c.enter worker request with
  | (c, .error outcome) => (outcome, c)
  | (c, .ok session) =>
    let (ending, session) :=
      Engine.Bridge.run WorkerHost.operations c.engine.bridge.backend interpreter session
    c.leave worker ending session

end Core

end ScriptGateway.Executor
