import ScriptGateway.Script.Host
import ScriptGateway.Script.Request
/-!
# The workers' host

One slot per worker notes what its script does: a request's cookies are put in before the
execution, and what was noted is taken out afterwards. A thread index that is no worker has
no slot; calls for it change nothing.

* `WorkerHost.operations` is the host that scripts run on.
-/

namespace ScriptGateway.Executor

open Script (Host Priority Variable)

/-- What was noted for one request. -/
structure Slot where
  cookies : Option String
  vars : List Variable
  /-- The status last sent. -/
  sentStatus : Option Nat
  /-- The header block last sent. -/
  sentHeaders : Bytes
  bytesWritten : Nat
  logCount : Nat
  deriving DecidableEq, Repr

/-- A slot in which nothing was noted. -/
def Slot.empty : Slot :=
  { cookies := none, vars := [], sentStatus := none, sentHeaders := [], bytesWritten := 0
    logCount := 0 }

/-- The slots of all workers, and the messages passed on to the log. -/
structure WorkerHost where
  slots : List Slot
  events : List Log.Event

namespace WorkerHost

/-- The host of so many workers. -/
def new (workers : Nat) : WorkerHost :=
  { slots := List.replicate workers .empty, events := [] }

/-- The position of a thread's slot. -/
def position? (h : WorkerHost) (thread : Int32) : Option Nat :=
  match thread.toInt with
  | .ofNat n => if n < h.slots.length then some n else none
  | .negSucc _ => none

/-- The slot of a thread. -/
def slot? (h : WorkerHost) (thread : Int32) : Option Slot :=
  (h.position? thread).bind (h.slots[·]?)

/-- Changes the slot of a thread, if it has one. -/
def update (h : WorkerHost) (thread : Int32) (f : Slot → Slot) : WorkerHost :=
  match h.position? thread with
  | some n => { h with slots := h.slots.modify n f }
  | none => h

/-- Clears a slot for a request with these cookies. -/
def begin (h : WorkerHost) (thread : Int32) (cookies : Option String) : WorkerHost :=
  h.update thread fun _ => { Slot.empty with cookies }

/-- Takes out what was noted in a slot. -/
def finish (h : WorkerHost) (thread : Int32) : Slot × WorkerHost :=
  ((h.slot? thread).getD .empty, h.update thread fun _ => .empty)

/-- The event by which a message reaches the log. -/
def messageEvent (thread : Int32) (message : String) (priority : Priority) : Log.Event :=
  { target := Log.interpreterTarget
    level := priority.level
    fields := [("message", .shown message), ("worker", .int thread.toInt)] }

/-- The operations that scripts run on. Bodies travel in the context, so there is none here. -/
def operations : Host WorkerHost where
  writeOutput thread data h :=
    match h.slot? thread with
    | some _ =>
      (data.length,
        h.update thread fun s => { s with bytesWritten := s.bytesWritten + data.length })
    | none => (0, h)
  sendHeaders thread status headers h :=
    match h.slot? thread with
    | some _ =>
      (true, h.update thread fun s => { s with sentStatus := some status, sentHeaders := headers })
    | none => (false, h)
  readBody _ _ h := ([], h)
  readCookies thread h := ((h.slot? thread).bind (·.cookies), h)
  registerVariable thread name value h :=
    h.update thread fun s => { s with vars := s.vars ++ [(name, value)] }
  logMessage thread message priority h :=
    let h := h.update thread fun s => { s with logCount := s.logCount + 1 }
    { h with events := h.events ++ [messageEvent thread message priority] }

end WorkerHost

end ScriptGateway.Executor
