import ScriptGateway.Proofs.Executor.Effect
import ScriptGateway.Proofs.Executor.Host
/-!
# What a request comes to

A request clears its slot and binds its thread, and from then on depends on nothing but its own
session and the backend. So what it comes to can be told from its first step on, whatever else
happens on other threads.

* `Core.entry`: the four ways in which a request begins.
* `Core.alone`: what a request comes to alone, and `alone_same`: on which parts of the core that
  depends.
* `Core.rest`: what a script that runs still comes to; `rest_perform` and `rest_leave` follow it to
  the end.
-/

namespace ScriptGateway.Executor

open Script (Context Session)
open WorkerHost

/-! ## 1. The beginning -/

/-- The host after a slot was cleared for a request and told its variables. -/
def prepared (host : WorkerHost) (thread : Int32) (request : Script.Request) : WorkerHost :=
  Engine.Bridge.announce operations thread (request.context thread).vars
    (host.begin thread request.cookies)

/-- The session on which the script of a request begins. -/
def opening (host : WorkerHost) (thread : Int32) (request : Script.Request) : Session WorkerHost :=
  { script := request.script
    context := (request.context thread).resetOutput
    host := prepared host thread request }

/-- The core with a thread bound to the script of a request. -/
def Core.bound (c : Core) (thread : Int32) (request : Script.Request) : Core :=
  { engine := { c.engine with
      bridge := { c.engine.bridge with
        active := ⟨Engine.Activation.insert thread request.script
          c.engine.bridge.active.bindings⟩ } }
    host := prepared c.host thread request }

/-- The core after a request was refused: the slot is cleared, and nothing else happened. -/
def Core.refused (c : Core) (thread : Int32) (request : Script.Request) : Core :=
  { c with host := ((c.host.begin thread request.cookies).finish thread).2 }

theorem Core.enter_notStarted {c : Core} (w : Nat) (request : Script.Request)
    (hs : c.engine.started = false) : c.enter w request =
      (c.refused (threadOf w) request, .error (.returned (.error .notStarted))) := by
  simp only [Core.enter, Engine.begin?, hs]
  rfl

theorem Core.enter_emptyScript {c : Core} (w : Nat) {request : Script.Request}
    (hs : c.engine.started = true) (he : request.script = "") : c.enter w request =
      (c.refused (threadOf w) request, .error (.returned (.error .emptyScript))) := by
  simp only [Core.enter, Engine.begin?, Engine.Bridge.begin?, hs, he]
  rfl

theorem Core.enter_threadBusy {c : Core} {w : Nat} {request : Script.Request}
    (hs : c.engine.started = true) (he : request.script ≠ "")
    (hb : c.engine.bridge.active.isActive (threadOf w) = true) : c.enter w request =
      (c.refused (threadOf w) request,
        .error (.returned (.error (.threadBusy (threadOf w))))) := by
  simp only [Core.enter, Engine.begin?, Engine.Bridge.begin?, Engine.Activation.bind?, hs,
    if_neg he, request.thread_context, hb]
  rfl

theorem Core.enter_opened {c : Core} {w : Nat} {request : Script.Request}
    (hs : c.engine.started = true) (he : request.script ≠ "")
    (hb : c.engine.bridge.active.isActive (threadOf w) = false) : c.enter w request =
      (c.bound (threadOf w) request, .ok (opening c.host (threadOf w) request)) := by
  simp only [Core.enter, Engine.begin?, Engine.Bridge.begin?, Engine.Activation.bind?, hs,
    if_neg he, request.thread_context, hb, Core.bound, opening, prepared,
    Context.thread_resetOutput]
  rfl

/-- **How a request begins**: on a session of its own, or refused for one of three reasons. -/
inductive Entry (c : Core) (w : Nat) (request : Script.Request) :
    Core × Except HandlerOutcome (Session WorkerHost) → Prop where
  | notStarted (hs : c.engine.started = false) : Entry c w request
      (c.refused (threadOf w) request, .error (.returned (.error .notStarted)))
  | emptyScript (hs : c.engine.started = true) (he : request.script = "") : Entry c w request
      (c.refused (threadOf w) request, .error (.returned (.error .emptyScript)))
  | threadBusy (hs : c.engine.started = true) (he : request.script ≠ "")
      (hb : c.engine.bridge.active.isActive (threadOf w) = true) : Entry c w request
      (c.refused (threadOf w) request, .error (.returned (.error (.threadBusy (threadOf w)))))
  | opened (hs : c.engine.started = true) (he : request.script ≠ "")
      (hb : c.engine.bridge.active.isActive (threadOf w) = false) : Entry c w request
      (c.bound (threadOf w) request, .ok (opening c.host (threadOf w) request))

theorem Core.entry (c : Core) (w : Nat) (request : Script.Request) :
    Entry c w request (c.enter w request) := by
  cases hs : c.engine.started with
  | false => exact c.enter_notStarted w request hs ▸ .notStarted hs
  | true =>
    by_cases he : request.script = ""
    · exact c.enter_emptyScript w hs he ▸ .emptyScript hs he
    · cases hb : c.engine.bridge.active.isActive (threadOf w) with
      | true => exact c.enter_threadBusy hs he hb ▸ .threadBusy hs he hb
      | false => exact c.enter_opened hs he hb ▸ .opened hs he hb

theorem thread_opening (host : WorkerHost) (thread : Int32) (request : Script.Request) :
    (opening host thread request).context.thread = thread :=
  request.thread_context thread

/-- The sessions on which a request begins are alike on all hosts of one size. -/
theorem opening_alike {h h' : WorkerHost} (hl : h.slots.length = h'.slots.length) (thread : Int32)
    (request : Script.Request) : Alike (opening h thread request) (opening h' thread request) := by
  refine ⟨rfl, rfl, ?_⟩
  rw [thread_opening]
  exact slot?_announce _ (slot?_begin hl thread request.cookies)

/-- What a request does to the host before its script runs concerns its own slot. -/
theorem keeps_prepared (host : WorkerHost) (thread : Int32) (request : Script.Request) :
    Keeps thread host (prepared host thread request) :=
  (keeps_update host thread _).trans (keeps_announce thread _ _)

theorem keeps_refused (c : Core) (thread : Int32) (request : Script.Request) :
    Keeps thread c.host (c.refused thread request).host :=
  (keeps_update c.host thread _).trans (keeps_update _ thread _)

/-! ## 2. What is still to come -/

/-- What a script that runs comes to if nothing else happens. -/
def Core.rest (c : Core) (w : Nat) (run : Run) : HandlerOutcome :=
  (c.leave w (run.program.run operations (run.session c.host)).1
    (run.program.run operations (run.session c.host)).2).1

/-- **What is still to come depends on the script's own slot and on the backend only.** -/
theorem rest_same {c c' : Core} {w : Nat} {run : Run} (ht : run.context.thread = threadOf w)
    (hb : c.engine.bridge.backend = c'.engine.bridge.backend)
    (hs : c.host.slot? (threadOf w) = c'.host.slot? (threadOf w)) :
    c.rest w run = c'.rest w run := by
  have alike : Alike (run.session c.host) (run.session c'.host) :=
    ⟨rfl, rfl, show c.host.slot? run.context.thread = _ from ht.symm ▸ hs⟩
  obtain ⟨endings, finished⟩ := run_alike run.program alike
  unfold Core.rest
  rw [← endings]
  exact leave_alike hb finished ((Script.Program.thread_run _ _ _).trans ht)

/-- What a backend does with a script, as a program. -/
theorem run_programOf (interpreter : Script.Interpreter) (backend : Engine.Backend)
    (s : Session WorkerHost) : Engine.Bridge.run operations backend interpreter s =
      (State.programOf backend interpreter s.script).run operations s := by
  cases backend <;> rfl

/-- What a request comes to with nothing else going on. -/
def Core.alone (c : Core) (interpreter : Script.Interpreter) (w : Nat) (request : Script.Request) :
    HandlerOutcome :=
  (c.runScript interpreter w request).1

/-- A request that is refused comes to that. -/
theorem alone_of_refused {c core : Core} {interpreter : Script.Interpreter} {w : Nat}
    {request : Script.Request} {outcome : HandlerOutcome}
    (h : c.enter w request = (core, .error outcome)) : c.alone interpreter w request = outcome := by
  unfold Core.alone Core.runScript
  rw [h]

/-- **What a request comes to alone is what is to come of its script.** -/
theorem alone_of_opened {c : Core} {interpreter : Script.Interpreter} {w : Nat}
    {request : Script.Request}
    (h : c.enter w request =
      (c.bound (threadOf w) request, .ok (opening c.host (threadOf w) request))) :
    c.alone interpreter w request = (c.bound (threadOf w) request).rest w
      { script := request.script
        context := (request.context (threadOf w)).resetOutput
        program := State.programOf c.engine.bridge.backend interpreter request.script } := by
  unfold Core.alone Core.runScript
  rw [h]
  dsimp only
  rw [run_programOf]
  rfl

/-- **On which parts of the core it depends what a request comes to.** -/
theorem alone_same {c c' : Core} (interpreter : Script.Interpreter) {w : Nat}
    (request : Script.Request) (hs : c.engine.started = c'.engine.started)
    (ha : c.engine.bridge.active.isActive (threadOf w) =
      c'.engine.bridge.active.isActive (threadOf w))
    (hb : c.engine.bridge.backend = c'.engine.bridge.backend)
    (hl : c.host.slots.length = c'.host.slots.length) :
    c.alone interpreter w request = c'.alone interpreter w request := by
  have entry := c.entry w request
  generalize hx : c.enter w request = x at entry
  cases entry with
  | notStarted h =>
    rw [alone_of_refused hx, alone_of_refused (c'.enter_notStarted w request (hs ▸ h))]
  | emptyScript h he =>
    rw [alone_of_refused hx, alone_of_refused (c'.enter_emptyScript w (hs ▸ h) he)]
  | threadBusy h he hbusy =>
    rw [alone_of_refused hx, alone_of_refused (c'.enter_threadBusy (hs ▸ h) he (ha ▸ hbusy))]
  | opened h he hfree =>
    rw [alone_of_opened hx, alone_of_opened (c'.enter_opened (hs ▸ h) he (ha ▸ hfree)), hb]
    have alike := opening_alike hl (threadOf w) request
    have slot := alike.slot
    rw [thread_opening] at slot
    exact rest_same (request.thread_context (threadOf w)) hb slot

/-! ## 3. On the way -/

/-- An operation leaves what is to come. -/
theorem rest_perform {c : Core} {w : Nat} {run : Run} {op : Script.Operation}
    {next : op.Answer → Script.Program} {answer : op.Answer} {session : Session WorkerHost}
    (hp : run.program = .ask op next)
    (ho : Session.perform operations op (run.session c.host) = (answer, session)) :
    ({ c with host := session.host } : Core).rest w
        { script := session.script, context := session.context, program := next answer } =
      c.rest w run := by
  unfold Core.rest
  rw [hp]
  simp only [Script.Program.run]
  rw [ho]
  rfl

/-- A script at its end comes to what leaving it gives. -/
theorem rest_leave {c core : Core} {w : Nat} {run : Run} {ending : Script.Ending}
    {outcome : HandlerOutcome} (hp : ending? run.program = some ending)
    (hc : c.leave w ending (run.session c.host) = (outcome, core)) : c.rest w run = outcome := by
  have finished : run.program.run operations (run.session c.host) =
      (ending, run.session c.host) := by
    cases e : run.program with
    | ask op next => rw [e] at hp; cases hp
    | _ => rw [e] at hp; cases hp; rfl
  unfold Core.rest
  rw [finished]
  dsimp only
  rw [hc]

/-- A script that ran to its end was not refused. -/
theorem leave_ne_refused (c : Core) (w : Nat) (ending : Script.Ending) (s : Session WorkerHost)
    (e : Engine.Error) : (c.leave w ending s).1 ≠ .returned (.error e) := by
  simp only [Core.leave, Engine.Bridge.conclude]
  cases ending with
  | done =>
    cases c.engine.bridge.backend <;>
    · intro h
      cases h
  | failed message =>
    intro h
    cases h
  | panicked message =>
    intro h
    cases h

/-! ## 4. An engine and a request -/

/-- An engine that is started, on an interpreter. -/
def startedEngine : Engine :=
  { version := "8.4", bridge := .ofBackend (.interpreter "interpreter"), extensions := none
    started := true }

/-- A request for a script, with one variable and cookies. -/
def requestOf (script : String) : Script.Request :=
  { script, documentRoot := none, scriptPath := none, vars := [("a", script)], body := none
    cookies := some script }

end ScriptGateway.Executor
