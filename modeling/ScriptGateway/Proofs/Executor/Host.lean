import ScriptGateway.Executor.Run
import ScriptGateway.Proofs.Engine.Execution
/-!
# The workers do not meet in the host

All that a script sees of the host is the slot of its own thread, and all that it changes is that
slot and the log. So scripts on different threads do not notice each other, and a request that
clears its slot first does not notice an earlier one.

* `slot?_update_self`, `slot?_update_ne`: a change of one slot.
* `Alike`: two sessions that a script cannot tell apart; `perform_alike`, `run_alike`.
* `Keeps`: what an operation leaves of the slots of others; `keeps_perform` for those of a script.
* `leave_alike`, `leave_keeps`: the end of a request.
-/

namespace ScriptGateway.Executor

open Script (Context Session)

/-! ## 1. Slots -/

namespace WorkerHost

theorem position?_eq_some {h : WorkerHost} {thread : Int32} {n : Nat} :
    h.position? thread = some n ↔ thread.toInt = n ∧ n < h.slots.length := by
  unfold position?
  constructor
  · intro hp
    split at hp
    · next m hm =>
      split at hp
      · next hl =>
        obtain rfl := Option.some.inj hp
        exact ⟨hm, hl⟩
      · cases hp
    · cases hp
  · rintro ⟨ht, hn⟩
    rw [ht]
    exact if_pos hn

theorem position?_of_length {h h' : WorkerHost} (hl : h.slots.length = h'.slots.length)
    (thread : Int32) : h.position? thread = h'.position? thread := by
  unfold position?
  rw [hl]

@[simp] theorem slots_length_update (h : WorkerHost) (thread : Int32) (f : Slot → Slot) :
    (h.update thread f).slots.length = h.slots.length := by
  unfold update
  split
  · exact List.length_modify ..
  · rfl

theorem slot?_update_self (h : WorkerHost) (thread : Int32) (f : Slot → Slot) :
    (h.update thread f).slot? thread = (h.slot? thread).map f := by
  have hp := position?_of_length (slots_length_update h thread f) thread
  unfold slot?
  rw [hp]
  unfold update
  cases e : h.position? thread with
  | none => rfl
  | some n =>
    show (h.slots.modify n f)[n]? = (h.slots[n]?).map f
    exact List.getElem?_modify_eq ..

theorem slot?_update_ne {h : WorkerHost} {thread other : Int32} (f : Slot → Slot)
    (hne : other ≠ thread) : (h.update thread f).slot? other = h.slot? other := by
  have hp := position?_of_length (slots_length_update h thread f) other
  unfold slot?
  rw [hp]
  unfold update
  cases e : h.position? thread with
  | none => rfl
  | some n =>
    cases e' : h.position? other with
    | none => rfl
    | some m =>
      have apart : n ≠ m := by
        rintro rfl
        have h1 := (position?_eq_some.mp e).1
        have h2 := (position?_eq_some.mp e').1
        exact hne (Int32.toInt_inj.mp (h2.trans h1.symm))
      show (h.slots.modify n f)[m]? = h.slots[m]?
      exact List.getElem?_modify_ne _ _ apart

/-- A slot that was cleared has nothing of what it was. -/
theorem slot?_begin {h h' : WorkerHost} (hl : h.slots.length = h'.slots.length) (thread : Int32)
    (cookies : Option String) :
    (h.begin thread cookies).slot? thread = (h'.begin thread cookies).slot? thread := by
  unfold begin
  rw [slot?_update_self, slot?_update_self]
  unfold slot?
  rw [position?_of_length hl]
  cases e : h'.position? thread with
  | none => rfl
  | some n =>
    have hn := (position?_eq_some.mp e).2
    show (h.slots[n]?).map _ = (h'.slots[n]?).map _
    rw [List.getElem?_eq_getElem hn, List.getElem?_eq_getElem (hl ▸ hn)]
    rfl

end WorkerHost

open WorkerHost

/-! ## 2. What a host operation reads and changes -/

/-- A change of the host in the name of a thread: it keeps the slots of all others. -/
structure Keeps (thread : Int32) (h h' : WorkerHost) : Prop where
  length : h'.slots.length = h.slots.length
  slot : ∀ other, other ≠ thread → h'.slot? other = h.slot? other

theorem Keeps.rfl {thread : Int32} {h : WorkerHost} : Keeps thread h h :=
  ⟨.refl _, fun _ _ => .refl _⟩

theorem Keeps.trans {thread : Int32} {h h' h'' : WorkerHost} (h1 : Keeps thread h h')
    (h2 : Keeps thread h' h'') : Keeps thread h h'' :=
  ⟨h2.length.trans h1.length, fun o ho => (h2.slot o ho).trans (h1.slot o ho)⟩

theorem keeps_update (h : WorkerHost) (thread : Int32) (f : Slot → Slot) :
    Keeps thread h (h.update thread f) :=
  ⟨slots_length_update h thread f, fun _ ho => slot?_update_ne f ho⟩

theorem keeps_log (h : WorkerHost) (thread : Int32) (message : String)
    (priority : Script.Priority) :
    Keeps thread h (operations.logMessage thread message priority h) := by
  have k := keeps_update h thread fun s => { s with logCount := s.logCount + 1 }
  exact ⟨k.length, k.slot⟩

theorem keeps_announce (thread : Int32) (vars : List Script.Variable) (h : WorkerHost) :
    Keeps thread h (Engine.Bridge.announce operations thread vars h) := by
  induction vars generalizing h with
  | nil => exact .rfl
  | cons v vars ih => exact (keeps_update h thread _).trans (ih _)

/-- The slots of a thread after the variables were told depend on the slot before only. -/
theorem slot?_announce {thread : Int32} (vars : List Script.Variable) {h h' : WorkerHost}
    (hs : h.slot? thread = h'.slot? thread) :
    (Engine.Bridge.announce operations thread vars h).slot? thread =
      (Engine.Bridge.announce operations thread vars h').slot? thread := by
  induction vars generalizing h h' with
  | nil => exact hs
  | cons v vars ih =>
    refine ih ?_
    show (h.update thread _).slot? thread = (h'.update thread _).slot? thread
    rw [slot?_update_self, slot?_update_self, hs]

theorem keeps_writeOutput (h : WorkerHost) (thread : Int32) (data : Bytes) :
    Keeps thread h (operations.writeOutput thread data h).2 := by
  simp only [operations]
  split
  · exact keeps_update h thread _
  · exact .rfl

theorem keeps_sendHeaders (h : WorkerHost) (thread : Int32) (status : Nat) (headers : Bytes) :
    Keeps thread h (operations.sendHeaders thread status headers h).2 := by
  simp only [operations]
  split
  · exact keeps_update h thread _
  · exact .rfl

theorem slot?_writeOutput (h : WorkerHost) (thread : Int32) (data : Bytes) :
    (operations.writeOutput thread data h).2.slot? thread = (h.slot? thread).map fun s =>
      { s with bytesWritten := s.bytesWritten + data.length } := by
  simp only [operations]
  split
  · next e => rw [slot?_update_self, e]
  · next e => rw [e]; rfl

theorem slot?_sendHeaders (h : WorkerHost) (thread : Int32) (status : Nat) (headers : Bytes) :
    (operations.sendHeaders thread status headers h).2.slot? thread = (h.slot? thread).map fun s =>
      { s with sentStatus := some status, sentHeaders := headers } := by
  simp only [operations]
  split
  · next e => rw [slot?_update_self, e]
  · next e => rw [e]; rfl

/-! ## 3. Sessions -/

/-- **Two sessions that a script cannot tell apart.** -/
structure Alike (s s' : Session WorkerHost) : Prop where
  script : s.script = s'.script
  context : s.context = s'.context
  slot : s.host.slot? s.context.thread = s'.host.slot? s.context.thread

/-- **An operation answers the same, and leaves the two sessions alike.** -/
theorem perform_alike (op : Script.Operation) {s s' : Session WorkerHost} (h : Alike s s') :
    (Session.perform operations op s).1 = (Session.perform operations op s').1 ∧
      Alike (Session.perform operations op s).2 (Session.perform operations op s').2 := by
  obtain ⟨script, c, host⟩ := s
  obtain ⟨_, _, host'⟩ := s'
  obtain ⟨rfl, rfl, hs⟩ := h
  replace hs : host.slot? c.thread = host'.slot? c.thread := hs
  cases op with
  | write data =>
    simp only [Session.perform, Session.write]
    split
    · exact ⟨rfl, rfl, rfl, hs⟩
    · refine ⟨rfl, rfl, rfl, ?_⟩
      show (operations.writeOutput c.thread data host).2.slot? c.thread =
        (operations.writeOutput c.thread data host').2.slot? c.thread
      rw [slot?_writeOutput, slot?_writeOutput, hs]
  | setStatus status => exact ⟨rfl, rfl, rfl, (c.thread_setStatus status).symm ▸ hs⟩
  | addHeader line => exact ⟨rfl, rfl, rfl, (c.thread_addHeader line).symm ▸ hs⟩
  | replaceHeader line => exact ⟨rfl, rfl, rfl, (c.thread_replaceHeader line).symm ▸ hs⟩
  | removeHeader name => exact ⟨rfl, rfl, rfl, hs⟩
  | clearHeaders => exact ⟨rfl, rfl, rfl, hs⟩
  | sendHeaders =>
    refine ⟨?_, rfl, rfl, ?_⟩
    · show (operations.sendHeaders c.thread c.status c.headerBytes host).1 =
        (operations.sendHeaders c.thread c.status c.headerBytes host').1
      simp only [operations]
      rw [← hs]
      split <;> rfl
    · show (operations.sendHeaders c.thread c.status c.headerBytes host).2.slot? c.thread =
        (operations.sendHeaders c.thread c.status c.headerBytes host').2.slot? c.thread
      rw [slot?_sendHeaders, slot?_sendHeaders, hs]
  | readBody size =>
    simp only [Session.perform, Session.readBody]
    split
    · exact ⟨rfl, rfl, rfl, hs⟩
    · split <;> exact ⟨rfl, rfl, rfl, hs⟩
  | readCookies =>
    refine ⟨?_, rfl, rfl, hs⟩
    show (host.slot? c.thread).bind _ = (host'.slot? c.thread).bind _
    rw [hs]
  | log message priority =>
    refine ⟨rfl, rfl, rfl, ?_⟩
    show (host.update c.thread _).slot? c.thread = (host'.update c.thread _).slot? c.thread
    rw [slot?_update_self, slot?_update_self, hs]
  | look => exact ⟨rfl, rfl, rfl, hs⟩

/-- **A program ends the same, and leaves the two sessions alike.** -/
theorem run_alike (p : Script.Program) {s s' : Session WorkerHost} (h : Alike s s') :
    (p.run operations s).1 = (p.run operations s').1 ∧
      Alike (p.run operations s).2 (p.run operations s').2 := by
  induction p generalizing s s' with
  | done => exact ⟨rfl, h⟩
  | fail message => exact ⟨rfl, h⟩
  | panic message => exact ⟨rfl, h⟩
  | ask op next ih =>
    obtain ⟨answers, alike⟩ := perform_alike op h
    simp only [Script.Program.run]
    rw [← answers]
    exact ih _ alike

/-- **What an operation leaves of the slots of others.** -/
theorem keeps_perform (op : Script.Operation) (s : Session WorkerHost) :
    Keeps s.context.thread s.host (Session.perform operations op s).2.host := by
  cases op with
  | write data =>
    simp only [Session.perform, Session.write]
    split
    · exact .rfl
    · exact keeps_writeOutput s.host _ data
  | sendHeaders => exact keeps_sendHeaders s.host _ _ _
  | readBody size =>
    simp only [Session.perform, Session.readBody]
    split
    · exact .rfl
    · split <;> exact .rfl
  | log message priority => exact keeps_log s.host _ message priority
  | _ => exact .rfl

/-! ## 4. The end of a request -/

/-- The end of a script leaves two alike sessions with the same outcome, still alike. -/
theorem settle_alike (backend : Engine.Backend) (ending : Script.Ending)
    {s s' : Session WorkerHost} (h : Alike s s') :
    (Engine.Bridge.settle operations backend ending s).1 =
        (Engine.Bridge.settle operations backend ending s').1 ∧
      Alike (Engine.Bridge.settle operations backend ending s).2
        (Engine.Bridge.settle operations backend ending s').2 := by
  cases ending with
  | done =>
    cases backend with
    | interpreter name =>
      exact ⟨congrArg (fun c : Context => Engine.Bridge.Outcome.answered c.response) h.context, h⟩
    | fallback =>
      refine ⟨?_, h⟩
      show Engine.Bridge.Outcome.answered (Script.FallbackPage.response s.script _) =
        Engine.Bridge.Outcome.answered (Script.FallbackPage.response s'.script _)
      rw [h.script, h.context]
  | failed message =>
    have alike := (perform_alike (.log message .error) h).2
    refine ⟨?_, alike⟩
    exact congrArg (fun c : Context => Engine.Bridge.Outcome.answered c.response) alike.context
  | panicked message => exact ⟨rfl, h⟩

theorem thread_settle (backend : Engine.Backend) (ending : Script.Ending)
    (s : Session WorkerHost) :
    (Engine.Bridge.settle operations backend ending s).2.context.thread = s.context.thread :=
  congrArg Context.thread (Engine.Bridge.context_settle operations backend ending s)

theorem keeps_settle (backend : Engine.Backend) (ending : Script.Ending)
    (s : Session WorkerHost) :
    Keeps s.context.thread s.host (Engine.Bridge.settle operations backend ending s).2.host := by
  cases ending with
  | done => cases backend <;> exact .rfl
  | failed message => exact keeps_log s.host _ message .error
  | panicked message => exact .rfl

/-- What is taken out of a slot depends on that slot only. -/
theorem collect_outcome {h h' : WorkerHost} {thread : Int32} (hs : h.slot? thread = h'.slot? thread)
    (outcome : Engine.Bridge.Outcome) :
    (Core.collect h thread outcome).1 = (Core.collect h' thread outcome).1 := by
  cases outcome with
  | answered response =>
    simp only [Core.collect, finish]
    rw [hs]
  | refused e => rfl
  | panicked message => rfl

theorem keeps_collect (h : WorkerHost) (thread : Int32) (outcome : Engine.Bridge.Outcome) :
    Keeps thread h (Core.collect h thread outcome).2 := by
  cases outcome with
  | panicked message => exact .rfl
  | _ => exact keeps_update h thread _

/-- **The end of a request depends on its own session and on the backend only.** -/
theorem leave_alike {c c' : Core} {w : Nat} {ending : Script.Ending} {s s' : Session WorkerHost}
    (hb : c.engine.bridge.backend = c'.engine.bridge.backend) (h : Alike s s')
    (ht : s.context.thread = threadOf w) :
    (c.leave w ending s).1 = (c'.leave w ending s').1 := by
  simp only [Core.leave, Engine.Bridge.conclude]
  rw [← hb]
  obtain ⟨outcomes, alike⟩ := settle_alike c.engine.bridge.backend ending h
  have thread := thread_settle c.engine.bridge.backend ending s
  rw [← outcomes]
  exact collect_outcome (ht ▸ thread ▸ alike.slot) _

/-- **What the end of a request leaves to others**: their slots and their threads. -/
theorem leave_keeps (c : Core) {w : Nat} (ending : Script.Ending) {s : Session WorkerHost}
    (ht : s.context.thread = threadOf w) :
    Keeps (threadOf w) s.host (c.leave w ending s).2.host ∧
      (c.leave w ending s).2.engine = { c.engine with
        bridge := { c.engine.bridge with
          active := c.engine.bridge.active.release (threadOf w) } } := by
  have settled := keeps_settle c.engine.bridge.backend ending s
  have thread := thread_settle c.engine.bridge.backend ending s
  refine ⟨?_, ?_⟩
  · exact (ht ▸ settled).trans (keeps_collect _ _ _)
  · simp only [Core.leave, Engine.Bridge.conclude]
    rw [thread, ht]

end ScriptGateway.Executor
