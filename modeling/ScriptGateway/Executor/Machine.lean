import ScriptGateway.Executor.Error
import ScriptGateway.Executor.Run
import ScriptGateway.Pool.Stats
/-!
# The executor, step by step

The executor puts requests on the pool's workers. All workers share one engine and one host,
and their scripts interleave operation by operation. Shutting the executor down closes the
pool, waits for the workers and stops the engine.

* `Executor.State.step?` carries out one step, if it can be taken now.
* `Executor.State.result?` is what the caller of a request gets.
-/

namespace ScriptGateway.Executor

open Script (Context Session)

/-- A script that runs on a worker. -/
structure Run where
  script : String
  context : Context
  /-- What the interpreter will still do. -/
  program : Script.Program

/-- The pool of an executor. -/
abbrev RequestPool := Pool.State Script.Request (Except Engine.Error Result)

/-- The state of an executor. -/
structure State where
  core : Core
  pool : RequestPool
  /-- The limit on one request. -/
  timeout : Option Duration
  /-- The scripts that run, by worker. -/
  runs : List (Option Run)
  /-- The closers that stopped the engine. -/
  stopped : List Nat

/-- A step of the executor. -/
inductive Action where
  /-- A new request arrives. -/
  | submit (request : Script.Request)
  /-- A caller takes its next step. -/
  | caller (index : Nat)
  /-- A caller gives up waiting. -/
  | expire (index : Nat)
  /-- A worker takes its next step in the pool. -/
  | worker (index : Nat)
  /-- A worker that was handed a request begins it. -/
  | enter (worker : Nat)
  /-- The script on a worker performs its next operation. -/
  | perform (worker : Nat)
  /-- A script that came to its end is left. -/
  | leave (worker : Nat)
  /-- Someone shuts the executor down. -/
  | close
  /-- A closer takes its next step in the pool. -/
  | closer (index : Nat)
  /-- A closer that joined the workers stops the engine. -/
  | stop (index : Nat)

/-- The name of the pool's worker threads. -/
def poolName : String := "php-worker"

/-- The ending of a program that has no operation left. -/
def ending? : Script.Program → Option Script.Ending
  | .done => some .done
  | .fail message => some (.failed message)
  | .panic message => some (.panicked message)
  | .ask _ _ => none

namespace State

/-- An executor on an engine. No workers stand for one per processor, no capacity for a
hundred places per worker. -/
def new (engine : Engine) (processors workers capacity : Nat) (timeout : Option Duration) :
    State :=
  let workers := if workers = 0 then processors else workers
  let capacity := if capacity = 0 then workers * Pool.placesPerWorker else capacity
  { core := { engine, host := .new workers }
    pool := .new (.withCapacity poolName workers capacity)
    timeout
    runs := List.replicate (max workers 1) none
    stopped := [] }

/-- Whether new requests are accepted. -/
def isReady (s : State) : Bool :=
  !s.pool.flagged && s.core.engine.started

/-- A step of the pool. -/
def poolStep? (s : State) (a : Pool.Action Script.Request (Except Engine.Error Result)) :
    Option State :=
  (s.pool.step? a).map fun pool => { s with pool }

/-- What an interpreter does on a backend: nothing without one. -/
def programOf (backend : Engine.Backend) (interpreter : Script.Interpreter) (script : String) :
    Script.Program :=
  match backend with
  | .fallback => .done
  | .interpreter _ => interpreter script

/-- A worker begins the request that it was handed. -/
def enter? (interpreter : Script.Interpreter) (s : State) (worker : Nat) : Option State :=
  match s.pool.workers[worker]?, s.runs[worker]? with
  | some (.running job), some none =>
    match s.core.enter worker job.request with
    | (core, .error outcome) => { s with core }.poolStep? (.finish worker outcome)
    | (core, .ok session) =>
      let program := programOf core.engine.bridge.backend interpreter session.script
      some { s with
        core
        runs := s.runs.set worker (some
          { script := session.script, context := session.context, program }) }
  | _, _ => none

/-- A script performs its next operation. -/
def perform? (s : State) (worker : Nat) : Option State :=
  match s.runs[worker]? with
  | some (some { script, context, program := .ask op next }) =>
    let (answer, session) :=
      Session.perform WorkerHost.operations op { script, context, host := s.core.host }
    some { s with
      core := { s.core with host := session.host }
      runs := s.runs.set worker (some
        { script := session.script, context := session.context, program := next answer }) }
  | _ => none

/-- A script that came to its end is left, and the handler ends. -/
def leave? (s : State) (worker : Nat) : Option State :=
  match s.runs[worker]? with
  | some (some run) =>
    (ending? run.program).bind fun ending =>
      let session := { script := run.script, context := run.context, host := s.core.host }
      let (outcome, core) := s.core.leave worker ending session
      { s with core, runs := s.runs.set worker none }.poolStep? (.finish worker outcome)
  | _ => none

/-- A closer that joined the workers stops the engine. -/
def stop? (s : State) (index : Nat) : Option State :=
  if s.pool.closers[index]? = some .joined ∧ index ∉ s.stopped then
    some { s with
      core := { s.core with engine := s.core.engine.shutdown.engine }
      stopped := s.stopped ++ [index] }
  else none

/-- Carries out a step, if it can be taken now. -/
def step? (interpreter : Script.Interpreter) (s : State) : Action → Option State
  | .submit request => s.poolStep? (.submit request s.timeout)
  | .caller index => s.poolStep? (.caller index)
  | .expire index => s.poolStep? (.expire index)
  | .worker index => s.poolStep? (.worker index)
  | .enter worker => s.enter? interpreter worker
  | .perform worker => s.perform? worker
  | .leave worker => s.leave? worker
  | .close => s.poolStep? .close
  | .closer index => s.poolStep? (.closer index)
  | .stop index => s.stop? index

/-- The states that any order of steps leads to. -/
inductive Reachable (interpreter : Script.Interpreter) (start : State) : State → Prop where
  | start : Reachable interpreter start start
  | step {s s' : State} (h : Reachable interpreter start s) (a : Action)
      (hs : s.step? interpreter a = some s') : Reachable interpreter start s'

/-- The result of a request as its caller sees it. -/
def flatten : Except Pool.Error (Except Engine.Error Result) → Except Error Result
  | .ok (.ok result) => .ok result
  | .ok (.error e) => .error (.engine e)
  | .error e => .error (.pool e)

/-- What the caller of a request got, if it has its answer. -/
def result? (s : State) (caller : Nat) : Option (Except Error Result) :=
  (s.pool.answer? caller).map flatten

end State

end ScriptGateway.Executor
