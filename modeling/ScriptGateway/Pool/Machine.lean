import ScriptGateway.Pool.Error
/-!
# The worker pool, step by step

Callers submit jobs to a bounded queue, workers take them off it, and closers shut the pool
down. Each of them runs a short program whose steps interleave with those of all others; a
step reads or changes one shared thing.

* A **caller** looks at the shutdown flag, takes a copy of the sender, counts its job as
  pending, tries to queue it and waits for the result; it may give up if it has a limit.
* A **worker** waits for a job, counts it as busy instead of pending, hands it to the handler,
  counts it as executed and replies.
* A **closer** raises the shutdown flag, takes the sender away if it was the first, and waits
  for the workers whose handles it found.

`State.step?` carries out one step, if it can be taken now; `Reachable` is what any order of
steps leads to. How long a handler runs and how it ends is an action of its own, and so is a
caller's giving up.
-/

namespace ScriptGateway.Pool

/-! ## 1. Settings and shared state -/

/-- The queue places per worker if no capacity is given. -/
def placesPerWorker : Nat := 100

/-- Name, number of workers and places in the queue. Without places, a job is handed to a
worker that waits for one. -/
structure Settings where
  name : String
  workers : Nat
  capacity : Nat
  workers_pos : 0 < workers

namespace Settings

/-- A pool with an explicit capacity and at least one worker. -/
def withCapacity (name : String) (workers capacity : Nat) : Settings :=
  { name, workers := max workers 1, capacity, workers_pos := by omega }

/-- A pool with the usual capacity; no workers stand for one per processor. -/
def usual (name : String) (processors workers : Nat) : Settings :=
  let workers := if workers = 0 then processors else workers
  withCapacity name workers (workers * placesPerWorker)

end Settings

/-- How a handler ended. -/
inductive Outcome (β : Type) where
  | returned (value : β)
  | panicked (message : String)
  deriving DecidableEq, Repr

/-- What the caller of a job gets for an outcome. -/
def Outcome.result {β : Type} : Outcome β → Except Error β
  | returned value => .ok value
  | panicked message => .error (.workerPanic message)

/-- A job: who submitted it, and what is asked. Callers are numbered in order of arrival. -/
structure Job (α : Type) where
  caller : Nat
  request : α
  deriving DecidableEq, Repr

/-! ## 2. The three kinds of actors -/

/-- Where a caller stands. -/
inductive CallerPhase (β : Type) where
  /-- Before it looks at the shutdown flag. -/
  | arrived
  /-- The flag was down; before it takes a copy of the sender. -/
  | checked
  /-- With a copy of the sender; before it counts its job as pending. -/
  | cloned
  /-- Its job is counted; before it tries to queue it. -/
  | counted
  /-- Its job is in the queue or with a worker. -/
  | waiting
  /-- The queue had no place; before its job is no longer counted. -/
  | full
  /-- Before the rejection is counted. -/
  | uncounted
  /-- Before it reads how many jobs are pending, to say so. -/
  | rejected
  /-- No worker is left; before its job is no longer counted. -/
  | cut
  /-- It gave up; before the timeout is counted. -/
  | expired (limit : Duration)
  /-- It has its answer. -/
  | answered (result : Except Error β)

/-- A caller, what it asks and how long it waits at most. -/
structure Caller (α β : Type) where
  request : α
  limit : Option Duration
  phase : CallerPhase β

/-- Where a worker stands. -/
inductive WorkerPhase (α β : Type) where
  /-- Before it may listen to the queue. -/
  | idle
  /-- The one worker that listens to the queue. -/
  | listening
  /-- It has a job, which still counts as pending. -/
  | received (job : Job α)
  /-- Before it counts as busy. -/
  | dequeued (job : Job α)
  /-- The handler runs. -/
  | running (job : Job α)
  /-- The handler panicked; before the panic is counted. -/
  | panicked (job : Job α) (message : String)
  /-- The handler ended; before the worker no longer counts as busy. -/
  | ended (job : Job α) (result : Except Error β)
  /-- Before the job counts as executed. -/
  | leaving (job : Job α) (result : Except Error β)
  /-- Before it replies. -/
  | replying (job : Job α) (result : Except Error β)
  | exited

/-- Where a closer stands. -/
inductive CloserPhase where
  | arrived
  /-- It was the first to raise the flag; before it takes the sender away. -/
  | first
  /-- The pool takes no more jobs; before it looks for workers to wait for. -/
  | closed
  /-- It waits for these workers to exit. -/
  | joining (workers : List Nat)
  | joined
  deriving DecidableEq, Repr

/-- The counters that anyone may read. -/
structure Counters where
  pending : Nat
  busy : Nat
  executed : Nat
  timeouts : Nat
  rejected : Nat
  panics : Nat
  deriving DecidableEq, Repr

/-- No job was seen yet. -/
def Counters.zero : Counters :=
  { pending := 0, busy := 0, executed := 0, timeouts := 0, rejected := 0, panics := 0 }

/-- What happened so far, oldest first. No step depends on it. -/
structure Record (β : Type) where
  /-- The callers whose jobs were queued. -/
  accepted : List Nat
  /-- The callers whose jobs were taken off the queue. -/
  taken : List Nat
  /-- The callers whose jobs were handed to the handler, with the worker. -/
  handed : List (Nat × Nat)
  /-- The callers whose jobs ended, with the outcome. -/
  ended : List (Nat × Outcome β)

/-- The state of a pool. -/
structure State (α β : Type) where
  settings : Settings
  queue : List (Job α)
  /-- Whether the sender is there to be copied. -/
  senderThere : Bool
  /-- Whether shutdown was asked for. -/
  flagged : Bool
  /-- The workers that nobody waits for yet. -/
  handles : List Nat
  counters : Counters
  callers : List (Caller α β)
  workers : List (WorkerPhase α β)
  closers : List CloserPhase
  record : Record β

/-! ## 3. Steps -/

/-- A step of one actor. -/
inductive Action (α β : Type) where
  /-- A new caller arrives. -/
  | submit (request : α) (limit : Option Duration)
  /-- A caller takes its next step. -/
  | caller (index : Nat)
  /-- A caller gives up waiting. -/
  | expire (index : Nat)
  /-- A worker takes its next step. -/
  | worker (index : Nat)
  /-- The handler ends on a worker. -/
  | finish (worker : Nat) (outcome : Outcome β)
  /-- A new closer arrives. -/
  | close
  /-- A closer takes its next step. -/
  | closer (index : Nat)

variable {α β : Type}

/-- Whether a caller holds a copy of the sender. -/
def CallerPhase.holdsSender : CallerPhase β → Bool
  | cloned => true
  | counted => true
  | full => true
  | uncounted => true
  | rejected => true
  | cut => true
  | _ => false

/-- Whether a caller waits for a result. -/
def CallerPhase.isWaiting : CallerPhase β → Bool
  | waiting => true
  | _ => false

/-- Whether a worker listens to the queue. -/
def WorkerPhase.isListening : WorkerPhase α β → Bool
  | listening => true
  | _ => false

/-- Whether a worker has exited. -/
def WorkerPhase.isExited : WorkerPhase α β → Bool
  | exited => true
  | _ => false

namespace State

/-- A pool before its first step. -/
def new (settings : Settings) : State α β :=
  { settings
    queue := []
    senderThere := true
    flagged := false
    handles := List.range settings.workers
    counters := .zero
    callers := []
    workers := List.replicate settings.workers .idle
    closers := []
    record := { accepted := [], taken := [], handed := [], ended := [] } }

/-- Puts a caller into a phase. -/
def setCaller (s : State α β) (index : Nat) (phase : CallerPhase β) : State α β :=
  { s with callers := s.callers.modify index fun c => { c with phase } }

/-- Puts a worker into a phase. -/
def setWorker (s : State α β) (index : Nat) (phase : WorkerPhase α β) : State α β :=
  { s with workers := s.workers.set index phase }

/-- Puts a closer into a phase. -/
def setCloser (s : State α β) (index : Nat) (phase : CloserPhase) : State α β :=
  { s with closers := s.closers.set index phase }

/-- Changes the counters. -/
def count (s : State α β) (f : Counters → Counters) : State α β :=
  { s with counters := f s.counters }

/-- Whether some copy of the sender is left. -/
def hasSender (s : State α β) : Bool :=
  s.senderThere || s.callers.any (·.phase.holdsSender)

/-- Whether no worker is left. -/
def isAbandoned (s : State α β) : Bool :=
  s.workers.all WorkerPhase.isExited

/-- Whether the queue takes one more job. -/
def hasRoom (s : State α β) : Bool :=
  if s.settings.capacity = 0 then s.queue.isEmpty && s.workers.any WorkerPhase.isListening
  else s.queue.length < s.settings.capacity

/-- Gives a caller its answer, if it still waits. -/
def reply (s : State α β) (index : Nat) (result : Except Error β) : State α β :=
  { s with
    callers := s.callers.modify index fun c =>
      if c.phase.isWaiting then { c with phase := .answered result } else c }

/-- Queues the job of a caller. -/
def accept (s : State α β) (index : Nat) (request : α) : State α β :=
  { s.setCaller index .waiting with
    queue := s.queue ++ [{ caller := index, request }]
    record := { s.record with accepted := s.record.accepted ++ [index] } }

/-- The next step of a caller. -/
def callerStep? (s : State α β) (index : Nat) (c : Caller α β) : Option (State α β) :=
  match c.phase with
  | .arrived =>
    some (s.setCaller index (if s.flagged then .answered (.error .shutdown) else .checked))
  | .checked =>
    some (s.setCaller index (if s.senderThere then .cloned else .answered (.error .shutdown)))
  | .cloned =>
    some ((s.count fun n => { n with pending := n.pending + 1 }).setCaller index .counted)
  | .counted =>
    some <|
      if s.isAbandoned then s.setCaller index .cut
      else if s.hasRoom then s.accept index c.request
      else s.setCaller index .full
  | .full =>
    some ((s.count fun n => { n with pending := n.pending - 1 }).setCaller index .uncounted)
  | .uncounted =>
    some ((s.count fun n => { n with rejected := n.rejected + 1 }).setCaller index .rejected)
  | .rejected =>
    some (s.setCaller index
      (.answered (.error (.queueFull s.settings.capacity s.counters.pending))))
  | .cut =>
    some ((s.count fun n => { n with pending := n.pending - 1 }).setCaller index
      (.answered (.error .shutdown)))
  | .expired limit =>
    some ((s.count fun n => { n with timeouts := n.timeouts + 1 }).setCaller index
      (.answered (.error (.timeout limit))))
  | .waiting => none
  | .answered _ => none

/-- A caller with a limit gives up waiting. -/
def expire? (s : State α β) (index : Nat) (c : Caller α β) : Option (State α β) :=
  match c.phase, c.limit with
  | .waiting, some limit => some (s.setCaller index (.expired limit))
  | _, _ => none

/-- Takes the first job off the queue. -/
def take (s : State α β) (index : Nat) (job : Job α) (rest : List (Job α)) : State α β :=
  { s.setWorker index (.received job) with
    queue := rest
    record := { s.record with taken := s.record.taken ++ [job.caller] } }

/-- A worker exits. The last one takes the queue with it, and with it the jobs still queued. -/
def exit (s : State α β) (index : Nat) : State α β :=
  let s := s.setWorker index .exited
  if s.isAbandoned then
    { s.queue.foldl (fun s job => s.reply job.caller (.error .channelClosed)) s with queue := [] }
  else s

/-- The next step of a worker. Only one worker listens at a time; it exits once the queue is
empty and nobody can send any more. -/
def workerStep? (s : State α β) (index : Nat) (w : WorkerPhase α β) : Option (State α β) :=
  match w with
  | .idle =>
    if s.workers.any WorkerPhase.isListening then none else some (s.setWorker index .listening)
  | .listening =>
    match s.queue with
    | job :: rest => some (s.take index job rest)
    | [] => if s.hasSender then none else some (s.exit index)
  | .received job =>
    some ((s.count fun n => { n with pending := n.pending - 1 }).setWorker index (.dequeued job))
  | .dequeued job =>
    let s := (s.count fun n => { n with busy := n.busy + 1 }).setWorker index (.running job)
    some { s with record := { s.record with handed := s.record.handed ++ [(job.caller, index)] } }
  | .panicked job message =>
    some ((s.count fun n => { n with panics := n.panics + 1 }).setWorker index
      (.ended job (.error (.workerPanic message))))
  | .ended job result =>
    some ((s.count fun n => { n with busy := n.busy - 1 }).setWorker index (.leaving job result))
  | .leaving job result =>
    some ((s.count fun n => { n with executed := n.executed + 1 }).setWorker index
      (.replying job result))
  | .replying job result => some ((s.reply job.caller result).setWorker index .idle)
  | .running _ => none
  | .exited => none

/-- The handler ends on a worker that runs one. -/
def finish? (s : State α β) (index : Nat) (w : WorkerPhase α β) (outcome : Outcome β) :
    Option (State α β) :=
  match w with
  | .running job =>
    let s := { s with
      record := { s.record with ended := s.record.ended ++ [(job.caller, outcome)] } }
    some <| s.setWorker index <|
      match outcome with
      | .returned value => .ended job (.ok value)
      | .panicked message => .panicked job message
  | _ => none

/-- The next step of a closer. -/
def closerStep? (s : State α β) (index : Nat) (c : CloserPhase) : Option (State α β) :=
  match c with
  | .arrived =>
    some (if s.flagged then s.setCloser index .closed
      else { s.setCloser index .first with flagged := true })
  | .first => some { s.setCloser index .closed with senderThere := false }
  | .closed => some { s.setCloser index (.joining s.handles) with handles := [] }
  | .joining workers =>
    if workers.all fun w => (s.workers[w]?).all WorkerPhase.isExited then
      some (s.setCloser index .joined)
    else none
  | .joined => none

/-- Carries out an action, if it can be taken now. -/
def step? (s : State α β) : Action α β → Option (State α β)
  | .submit request limit =>
    some { s with callers := s.callers ++ [{ request, limit, phase := .arrived }] }
  | .caller index => s.callers[index]?.bind (s.callerStep? index)
  | .expire index => s.callers[index]?.bind (s.expire? index)
  | .worker index => s.workers[index]?.bind (s.workerStep? index)
  | .finish index outcome => s.workers[index]?.bind (s.finish? index · outcome)
  | .close => some { s with closers := s.closers ++ [.arrived] }
  | .closer index => s.closers[index]?.bind (s.closerStep? index)

/-- The job that a worker's handler runs. -/
def running? (s : State α β) (worker : Nat) : Option (Job α) :=
  match s.workers[worker]? with
  | some (.running job) => some job
  | _ => none

/-- The answer of a caller, if it has one. -/
def answer? (s : State α β) (caller : Nat) : Option (Except Error β) :=
  match s.callers[caller]? with
  | some { phase := .answered result, .. } => some result
  | _ => none

/-- The states that any order of steps leads to. -/
inductive Reachable (settings : Settings) : State α β → Prop where
  | start : Reachable settings (new settings)
  | step {s s' : State α β} (h : Reachable settings s) (a : Action α β) (hs : s.step? a = some s') :
      Reachable settings s'

end State

end ScriptGateway.Pool
