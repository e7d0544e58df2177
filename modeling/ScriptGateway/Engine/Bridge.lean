import ScriptGateway.Engine.Activation
import ScriptGateway.Engine.Mode
import ScriptGateway.Script.Program
/-!
# Executing scripts

A bridge executes scripts on contexts: it binds the thread, clears what an earlier execution
left, tells the host the variables, lets the interpreter run and takes the response from the
context. Without an interpreter the response is a fixed page.

* `Bridge.begin?` and `Bridge.conclude` stand before and after the interpreter's run.
* `Bridge.execute` puts them together for an interpreter given as a program.
-/

namespace ScriptGateway.Engine

open Script (Context Host Session Variable)

/-- What scripts run on. -/
inductive Backend where
  | fallback
  | interpreter (name : String)
  deriving DecidableEq, Repr

namespace Backend

/-- The mode of a backend. -/
def mode : Backend → Mode
  | fallback => .fallback
  | interpreter _ => .full

/-- The name of a backend. -/
def name : Backend → String
  | fallback => "fallback"
  | interpreter name => name

end Backend

/-- A backend and the threads that execute on it. -/
structure Bridge where
  backend : Backend
  active : Activation
  deriving DecidableEq, Repr

namespace Bridge

/-- A bridge on which nothing executes. -/
def ofBackend (backend : Backend) : Bridge :=
  { backend, active := .none }

/-- The bridge for a mode, without an interpreter from outside. -/
def ofMode? : Mode → Except Error Bridge
  | .fallback => .ok (ofBackend .fallback)
  | .full => .error (.startup "full interpreter mode requires the php-embed feature")

/-- A description for diagnostics. -/
def describe (b : Bridge) : String :=
  let mode := match b.backend.mode with
    | .full => "FullInterpreter"
    | .fallback => "Fallback"
  "Bridge \x7b mode: " ++ mode ++ ", backend: " ++ Text.quoted b.backend.name ++ ", active: "
    ++ toString b.active.count ++ " \x7d"

variable {σ : Type}

/-- Tells the host the variables of a context, in order. -/
def announce (h : Host σ) (thread : Int32) (vars : List Variable) (host : σ) : σ :=
  vars.foldl (fun host (name, value) => h.registerVariable thread name value host) host

/-- Begins an execution: refuses an empty script and a thread that is bound, and otherwise
binds the thread, clears the output and tells the host the variables. -/
def begin? (h : Host σ) (b : Bridge) (c : Context) (script : String) (host : σ) :
    Except Error (Bridge × Session σ) :=
  if script = "" then .error .emptyScript
  else
    match b.active.bind? c.thread script with
    | .error e => .error e
    | .ok active =>
      let c := c.resetOutput
      .ok ({ b with active }, { script, context := c, host := announce h c.thread c.vars host })

/-- How an execution ended. -/
inductive Outcome where
  | answered (r : Script.Response)
  | refused (e : Error)
  | panicked (message : String)
  deriving DecidableEq, Repr

/-- The outcome of a session that ended, after the host was told of a failure. -/
def settle (h : Host σ) (backend : Backend) (ending : Script.Ending) (s : Session σ) :
    Outcome × Session σ :=
  match ending with
  | .panicked message => (.panicked message, s)
  | .failed message =>
    let s := s.log h message .error
    (.answered s.context.response, s)
  | .done =>
    match backend with
    | .interpreter _ => (.answered s.context.response, s)
    | .fallback => (.answered (Script.FallbackPage.response s.script s.context.thread), s)

/-- Ends an execution and releases its thread. -/
def conclude (h : Host σ) (b : Bridge) (ending : Script.Ending) (s : Session σ) :
    Outcome × Bridge × Session σ :=
  let (outcome, s) := settle h b.backend ending s
  (outcome, { b with active := b.active.release s.context.thread }, s)

/-- What a backend does with a script: the interpreter runs it, the fixed page needs nothing. -/
def run (h : Host σ) (backend : Backend) (interpreter : Script.Interpreter) (s : Session σ) :
    Script.Ending × Session σ :=
  match backend with
  | .fallback => (.done, s)
  | .interpreter _ => (interpreter s.script).run h s

/-- All that an execution leaves behind. -/
structure Execution (σ : Type) where
  outcome : Outcome
  bridge : Bridge
  context : Context
  host : σ

/-- Executes a script on a context. -/
def execute (h : Host σ) (interpreter : Script.Interpreter) (b : Bridge) (c : Context)
    (script : String) (host : σ) : Execution σ :=
  match b.begin? h c script host with
  | .error e => { outcome := .refused e, bridge := b, context := c, host }
  | .ok (b, s) =>
    let (ending, s) := run h b.backend interpreter s
    let (outcome, b, s) := b.conclude h ending s
    { outcome, bridge := b, context := s.context, host := s.host }

end Bridge

end ScriptGateway.Engine
