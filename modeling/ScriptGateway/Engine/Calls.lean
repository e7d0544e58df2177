import ScriptGateway.Engine.Bridge
/-!
# Executions side by side

Any number of callers execute scripts on one bridge. A call binds its thread, tells the host its
variables one by one, lets the interpreter perform its operations, makes its response and releases
the thread. The calls share the bridge and the host, and their steps interleave in any order.

* `Call.advance?` carries out one step of a call, if it has not ended.
* `Calls.step?` carries out one step of any call; `Calls.Reachable` is what any order of steps
  leads to.
-/

namespace ScriptGateway.Engine

open Script (Context Host Session Variable)

variable {σ : Type}

/-! ## 1. One call -/

/-- Where a call stands. -/
inductive Phase where
  /-- It came in; nothing is bound. -/
  | arrived
  /-- Its thread is bound, and the host is still to be told these variables. -/
  | announcing (vars : List Variable)
  /-- The interpreter runs, and will still do this. -/
  | running (program : Script.Program)
  /-- It has its outcome; its thread is still bound. -/
  | leaving (outcome : Bridge.Outcome)
  | ended (outcome : Bridge.Outcome)

/-- A call that executes a script on a context. -/
structure Call where
  script : String
  context : Context
  /-- What an interpreter does with the script in this call. -/
  program : Script.Program
  phase : Phase

namespace Call

/-- A call as it comes in. -/
def arriving (context : Context) (script : String) (program : Script.Program) : Call :=
  { script, context, program, phase := .arrived }

/-- Whether the thread of a call is bound by it. -/
def isHolding (c : Call) : Bool :=
  match c.phase with
  | .announcing _ | .running _ | .leaving _ => true
  | .arrived | .ended _ => false

/-- The session of a call, on the host as it is now. -/
def session (c : Call) (host : σ) : Session σ :=
  { script := c.script, context := c.context, host }

/-- What runs on a backend: the program of the call, if there is an interpreter. -/
def programOn (c : Call) : Backend → Script.Program
  | .fallback => .done
  | .interpreter _ => c.program

/-- What a step of a call leaves behind. -/
structure Turn (σ : Type) where
  bridge : Bridge
  host : σ
  call : Call

/-- The call once its session went on. -/
def resume (c : Call) (b : Bridge) (s : Session σ) (phase : Phase) : Turn σ :=
  { bridge := b, host := s.host, call := { c with context := s.context, phase } }

/-- The call once it was refused. -/
def refuse (c : Call) (b : Bridge) (host : σ) (e : Error) : Turn σ :=
  { bridge := b, host, call := { c with phase := .ended (.refused e) } }

/-- A call is refused, or binds its thread and clears what an earlier execution left. -/
def enter (c : Call) (b : Bridge) (host : σ) : Turn σ :=
  if c.script = "" then c.refuse b host .emptyScript
  else
    match b.active.bind? c.context.thread c.script with
    | .error e => c.refuse b host e
    | .ok active =>
      let context := c.context.resetOutput
      { bridge := { b with active }
        host
        call := { c with context, phase := .announcing context.vars } }

/-- The program of a call came to an end, and the call has its outcome. -/
def settle (h : Host σ) (c : Call) (b : Bridge) (host : σ) (ending : Script.Ending) : Turn σ :=
  let (outcome, s) := Bridge.settle h b.backend ending (c.session host)
  c.resume b s (.leaving outcome)

/-- The next step of a call. -/
def advance? (h : Host σ) (b : Bridge) (host : σ) (c : Call) : Option (Turn σ) :=
  match c.phase with
  | .arrived => some (c.enter b host)
  | .announcing ((name, value) :: vars) =>
    let host := h.registerVariable c.context.thread name value host
    some { bridge := b, host, call := { c with phase := .announcing vars } }
  | .announcing [] =>
    some { bridge := b, host, call := { c with phase := .running (c.programOn b.backend) } }
  | .running (.ask op next) =>
    let (answer, s) := Session.perform h op (c.session host)
    some (c.resume b s (.running (next answer)))
  | .running .done => some (c.settle h b host .done)
  | .running (.fail message) => some (c.settle h b host (.failed message))
  | .running (.panic message) => some (c.settle h b host (.panicked message))
  | .leaving outcome =>
    some
      { bridge := { b with active := b.active.release c.context.thread }
        host
        call := { c with phase := .ended outcome } }
  | .ended _ => none

/-- A panic anywhere in a call that holds its thread unwinds it. -/
def unwind? (c : Call) (message : String) : Option Call :=
  if c.isHolding then some { c with phase := .leaving (.panicked message) } else none

end Call

/-! ## 2. Many calls -/

/-- A bridge and its host, and the calls that were made so far. -/
structure Calls (σ : Type) where
  bridge : Bridge
  host : σ
  calls : List Call

namespace Calls

/-- A step of someone who calls. -/
inductive Action where
  /-- A call comes in. -/
  | arrive (context : Context) (script : String) (program : Script.Program)
  /-- A call takes its next step. -/
  | advance (index : Nat)
  /-- A call that holds its thread panics. -/
  | unwind (index : Nat) (message : String)

/-- A bridge before the first call. -/
def new (backend : Backend) (host : σ) : Calls σ :=
  { bridge := .ofBackend backend, host, calls := [] }

/-- Carries out a step, if it can be taken now. -/
def step? (h : Host σ) (m : Calls σ) : Action → Option (Calls σ)
  | .arrive context script program =>
    some { m with calls := m.calls ++ [.arriving context script program] }
  | .advance index =>
    m.calls[index]?.bind fun c =>
      (c.advance? h m.bridge m.host).map fun turn =>
        { bridge := turn.bridge, host := turn.host, calls := m.calls.set index turn.call }
  | .unwind index message =>
    m.calls[index]?.bind fun c =>
      (c.unwind? message).map fun c => { m with calls := m.calls.set index c }

/-- The states that any order of steps leads to. -/
inductive Reachable (h : Host σ) (start : Calls σ) : Calls σ → Prop where
  | start : Reachable h start start
  | step {m m' : Calls σ} (hr : Reachable h start m) (a : Action) (hs : m.step? h a = some m') :
      Reachable h start m'

end Calls

end ScriptGateway.Engine
