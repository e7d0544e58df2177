import ScriptGateway.Proofs.Engine.Activation
import ScriptGateway.Proofs.Executor.Request
import ScriptGateway.Proofs.Pool.ExactlyOnce
/-!
# Request isolation

What a request comes to is what it comes to alone, on an engine just started and a host on which
nothing was noted yet, whatever other requests run before it or beside it, and however they end.

* `OwnThread`: a worker whose thread index is no other worker's; all workers have one of their own
  as long as there are no more than thread indices.
* `Coming`: a script under way still comes to what its request comes to alone.
* `Isolated`: the invariant; an active thread is that of a script that runs, so no request finds its
  own thread busy, and no request sees another one's slot.
* `isolation`: the outcomes of all requests.
-/

namespace ScriptGateway.Executor

open Script (Context Session)
open WorkerHost

/-! ## 1. Workers with a thread of their own -/

/-- A worker whose thread index is no other worker's. Workers share one only where there are more of
them than thread indices, which is more than a system has threads. -/
def OwnThread (workers w : Nat) : Prop :=
  ∀ v < workers, threadOf v = threadOf w → v = w

theorem toInt_threadOf {w : Nat} (h : w < 2147483648) : (threadOf w).toInt = w := by
  unfold threadOf
  rw [if_pos h]
  exact Int32.toInt_ofNat_of_lt h

/-- Thread indices suffice for so many workers. -/
theorem ownThread_of_le {workers w : Nat} (h : workers ≤ 2147483648) (hw : w < workers) :
    OwnThread workers w := by
  intro v hv e
  have := congrArg Int32.toInt e
  rw [toInt_threadOf (by omega), toInt_threadOf (by omega)] at this
  exact Int.ofNat.inj this

/-! ## 2. The invariant -/

/-- A script under way comes to what the request of its worker comes to alone. -/
def Coming (interpreter : Script.Interpreter) (first s : State) (w : Nat) (run : Run) : Prop :=
  ∃ job, s.pool.workers[w]? = some (.running job) ∧
    s.core.rest w run = first.core.alone interpreter w job.request

/-- An outcome is what the request of that caller comes to alone, on the worker it was handed to;
only if someone stopped the engine may it be that the engine is not started. -/
def Genuine (interpreter : Script.Interpreter) (first s : State) (c : Nat) (o : HandlerOutcome) :
    Prop :=
  ∃ (w : Nat) (k : Pool.Caller Script.Request (Except Engine.Error Result)),
    (c, w) ∈ s.pool.record.handed ∧ s.pool.callers[c]? = some k ∧
      (OwnThread first.runs.length w →
        o = first.core.alone interpreter w k.request ∨
          (s.stopped ≠ [] ∧ o = .returned (.error .notStarted)))

/-- **The invariant of isolation.** -/
structure Isolated (interpreter : Script.Interpreter) (first s : State) : Prop where
  runs : s.runs.length = first.runs.length
  slots : s.core.host.slots.length = first.core.host.slots.length
  backend : s.core.engine.bridge.backend = first.core.engine.bridge.backend
  started : s.core.engine.started = true ∨ s.stopped ≠ []
  active : ∀ thread, s.core.engine.bridge.active.isActive thread = true →
    ∃ (v : Nat) (run : Run), s.runs[v]? = some (some run) ∧ threadOf v = thread
  threads : ∀ (w : Nat) (run : Run), s.runs[w]? = some (some run) → run.context.thread = threadOf w
  coming : ∀ (w : Nat) (run : Run), s.runs[w]? = some (some run) →
    OwnThread first.runs.length w → Coming interpreter first s w run
  outcomes : ∀ (c : Nat) (o : HandlerOutcome), (c, o) ∈ s.pool.record.ended →
    Genuine interpreter first s c o

section Step

variable {interpreter : Script.Interpreter} {first s s' : State}

/-- What happens on another thread leaves what is to come. -/
theorem Coming.other {w v : Nat} {run : Run} (h : Coming interpreter first s v run)
    (ht : run.context.thread = threadOf v)
    (hp : s'.pool.workers[v]? = s.pool.workers[v]?)
    (hb : s'.core.engine.bridge.backend = s.core.engine.bridge.backend)
    (hk : Keeps (threadOf w) s.core.host s'.core.host) (hne : threadOf v ≠ threadOf w) :
    Coming interpreter first s' v run := by
  obtain ⟨job, hw, hr⟩ := h
  exact ⟨job, hp.trans hw, (rest_same ht hb (hk.slot _ hne)).trans hr⟩

/-- An outcome that is genuine stays so. -/
theorem Genuine.mono {c : Nat} {o : HandlerOutcome} (h : Genuine interpreter first s c o)
    (hp : (∃ b, Pool.Effect s.pool b s'.pool) ∨ s'.pool = s.pool)
    (hs : s.stopped ⊆ s'.stopped) : Genuine interpreter first s' c o := by
  obtain ⟨w, k, hw, hk, ho⟩ := h
  have stopped (hne : s.stopped ≠ []) : s'.stopped ≠ [] := by
    obtain ⟨i, hi⟩ := List.exists_mem_of_ne_nil _ hne
    exact List.ne_nil_of_mem (hs hi)
  rcases hp with ⟨b, he⟩ | e
  · obtain ⟨k', hk', hr, -⟩ := Pool.caller_kept he hk
    refine ⟨w, k', (Pool.record_grows he).2.2.1.subset hw, hk', fun own => ?_⟩
    rw [hr]
    exact (ho own).imp_right fun h => ⟨stopped h.1, h.2⟩
  · exact ⟨w, k, e ▸ hw, e ▸ hk, fun own => (ho own).imp_right fun h => ⟨stopped h.1, h.2⟩⟩

/-- What a handler comes to for the job of its worker is an outcome of that job's caller. -/
theorem genuine_of_running {w : Nat} {job : Pool.Job Script.Request} {o : HandlerOutcome}
    (hc : Pool.Carried s.pool) (hw : s.pool.workers[w]? = some (.running job))
    (ho : OwnThread first.runs.length w →
      o = first.core.alone interpreter w job.request ∨
        (s.stopped ≠ [] ∧ o = .returned (.error .notStarted))) :
    Genuine interpreter first s job.caller o := by
  obtain ⟨k, hk, hr⟩ := hc.asks job (.inr ⟨w, _, .running, hw, rfl⟩)
  exact ⟨w, k, hc.booked w _ hw, hk, hr ▸ ho⟩

/-- No script runs on the thread of a worker of its own but on that worker. -/
theorem Isolated.free (h : Isolated interpreter first s) {w : Nat} (hr : s.runs[w]? = some none)
    (own : OwnThread first.runs.length w) :
    s.core.engine.bridge.active.isActive (threadOf w) = false := by
  cases ha : s.core.engine.bridge.active.isActive (threadOf w) with
  | false => rfl
  | true =>
    obtain ⟨v, run, hv, ht⟩ := h.active _ ha
    have hlt := (List.getElem?_eq_some_iff.mp hv).1
    obtain rfl := own v (h.runs ▸ hlt) ht
    cases hr.symm.trans hv

/-- **A request that begins now comes to what it comes to alone.** -/
theorem Isolated.alone (h : Isolated interpreter first s) {w : Nat} {request : Script.Request}
    (hf : first.core.engine.started = true)
    (hn : ∀ thread, first.core.engine.bridge.active.isActive thread = false)
    (hr : s.runs[w]? = some none) (own : OwnThread first.runs.length w)
    (hs : s.core.engine.started = true) :
    s.core.alone interpreter w request = first.core.alone interpreter w request :=
  alone_same interpreter request (hs.trans hf.symm) ((h.free hr own).trans (hn _).symm) h.backend
    h.slots

/-- **A request that is refused now is refused alone**, unless someone stopped the engine. -/
theorem Isolated.refused (h : Isolated interpreter first s) {w : Nat} {request : Script.Request}
    {core : Core} {outcome : HandlerOutcome} (hf : first.core.engine.started = true)
    (hn : ∀ thread, first.core.engine.bridge.active.isActive thread = false)
    (hr : s.runs[w]? = some none) (hcore : s.core.enter w request = (core, .error outcome))
    (own : OwnThread first.runs.length w) :
    outcome = first.core.alone interpreter w request ∨
      (s.stopped ≠ [] ∧ outcome = .returned (.error .notStarted)) := by
  by_cases hs : s.core.engine.started = true
  · exact .inl ((alone_of_refused hcore).symm.trans (h.alone hf hn hr own hs))
  · have entry := s.core.entry w request
    rw [hcore] at entry
    cases entry with
    | notStarted _ => exact .inr ⟨h.started.resolve_left hs, rfl⟩
    | emptyScript hs' _ => exact absurd hs' hs
    | threadBusy hs' _ _ => exact absurd hs' hs

/-- **What a worker does is not noticed by the scripts of others.** -/
theorem Isolated.coming_other (h : Isolated interpreter first s) {w v : Nat} {x : Option Run}
    {run : Run} (hw : s.runs[w]? = some x) (hne : v ≠ w) (hv : s.runs[v]? = some (some run))
    (own : OwnThread first.runs.length v)
    (hp : s'.pool.workers[v]? = s.pool.workers[v]?)
    (hb : s'.core.engine.bridge.backend = s.core.engine.bridge.backend)
    (hk : Keeps (threadOf w) s.core.host s'.core.host) : Coming interpreter first s' v run := by
  have apart : threadOf v ≠ threadOf w := fun e =>
    hne (own w (h.runs ▸ (List.getElem?_eq_some_iff.mp hw).1) e.symm).symm
  exact (h.coming v run hv own).other (h.threads v run hv) hp hb hk apart

/-- The outcomes so far stay genuine, and so is a new one. -/
theorem Isolated.outcomes_conclude (h : Isolated interpreter first s) {w : Nat}
    {job : Pool.Job Script.Request} {o : HandlerOutcome}
    (hw : s.pool.workers[w]? = some (.running job)) (hp : s'.pool = s.pool.conclude w job o)
    (hs : s'.stopped = s.stopped) (ho : Genuine interpreter first s job.caller o) (c : Nat)
    (o' : HandlerOutcome) (hc : (c, o') ∈ s'.pool.record.ended) :
    Genuine interpreter first s' c o' := by
  have step : (∃ b, Pool.Effect s.pool b s'.pool) ∨ s'.pool = s.pool :=
    .inl ⟨.finish w o, hp ▸ .finish w job o hw⟩
  rw [hp] at hc
  rcases List.mem_append.mp hc with hc | hc
  · exact (h.outcomes c o' hc).mono step (hs ▸ List.Subset.refl _)
  · obtain ⟨rfl, rfl⟩ := Prod.mk.inj (List.mem_singleton.mp hc)
    exact ho.mono step (hs ▸ List.Subset.refl _)

/-- **A step of the script of one worker** is isolated if it concerns only that worker, its thread
and its slot. -/
theorem Isolated.move (h : Isolated interpreter first s) {w : Nat} {x y : Option Run}
    (hw : s.runs[w]? = some x) (hw' : s'.runs[w]? = some y)
    (runs : ∀ v ≠ w, s'.runs[v]? = s.runs[v]?) (length : s'.runs.length = s.runs.length)
    (keeps : Keeps (threadOf w) s.core.host s'.core.host)
    (backend : s'.core.engine.bridge.backend = s.core.engine.bridge.backend)
    (started : s'.core.engine.started = true ∨ s'.stopped ≠ [])
    (active : ∀ t, s'.core.engine.bridge.active.isActive t = true →
      (t = threadOf w ∧ y.isSome = true) ∨
        ((t = threadOf w → x = none) ∧ s.core.engine.bridge.active.isActive t = true))
    (workers : ∀ v ≠ w, s'.pool.workers[v]? = s.pool.workers[v]?)
    (thread : ∀ run, y = some run → run.context.thread = threadOf w)
    (coming : ∀ run, y = some run → OwnThread first.runs.length w →
      Coming interpreter first s' w run)
    (outcomes : ∀ (c : Nat) (o : HandlerOutcome), (c, o) ∈ s'.pool.record.ended →
      Genuine interpreter first s' c o) : Isolated interpreter first s' where
  runs := length.trans h.runs
  slots := keeps.length.trans h.slots
  backend := backend.trans h.backend
  started := started
  active t ht := by
    rcases active t ht with ⟨rfl, hy⟩ | ⟨hne, ht⟩
    · obtain ⟨run, rfl⟩ := Option.isSome_iff_exists.mp hy
      exact ⟨w, run, hw', rfl⟩
    · obtain ⟨v, run, hv, rfl⟩ := h.active t ht
      have hvw : v ≠ w := by
        rintro rfl
        cases (hne rfl ▸ hw).symm.trans hv
      exact ⟨v, run, (runs v hvw).trans hv, rfl⟩
  threads v run hv := by
    by_cases hvw : v = w
    · subst hvw
      exact thread run (Option.some.inj (hw'.symm.trans hv))
    · exact h.threads v run ((runs v hvw).symm.trans hv)
  coming v run hv own := by
    by_cases hvw : v = w
    · subst hvw
      exact coming run (Option.some.inj (hw'.symm.trans hv)) own
    · exact h.coming_other hw hvw ((runs v hvw).symm.trans hv) own (workers v hvw) backend keeps
  outcomes := outcomes

theorem isolated_step (hf : first.core.engine.started = true)
    (hn : ∀ thread, first.core.engine.bridge.active.isActive thread = false) {a : Action}
    (hc : Pool.Carried s.pool) (h : Isolated interpreter first s)
    (he : Effect interpreter s a s') : Isolated interpreter first s' := by
  cases he with
  | pool a b pool ha hs =>
    have he := Pool.effect_of_step hs
    have finish := Action.pool?_ne_finish ha
    refine ⟨h.runs, h.slots, h.backend, h.started, h.active, h.threads, ?_, ?_⟩
    · intro w run hr own
      obtain ⟨job, hw, hcoming⟩ := h.coming w run hr own
      exact ⟨job, Pool.running_kept he hw (finish w), hcoming⟩
    · intro c o hc
      have hc : (c, o) ∈ s.pool.record.ended := Pool.ended_kept he finish ▸ hc
      exact (h.outcomes c o hc).mono (.inl ⟨b, he⟩) (List.Subset.refl _)
  | refuse w job core outcome hw hr hcore =>
    have ho := h.refused hf hn hr hcore
    have entry := s.core.entry w job.request
    rw [hcore] at entry
    have hcore' : core = s.core.refused (threadOf w) job.request := by cases entry <;> rfl
    subst hcore'
    exact h.move hr hr (fun _ _ => rfl) rfl (keeps_refused s.core (threadOf w) job.request) rfl
      h.started (fun _ ht => .inr ⟨fun _ => rfl, ht⟩)
      (fun _ => Pool.State.workers_setWorker_ne (q := Pool.State.afterwards job outcome)) nofun
      nofun (h.outcomes_conclude hw rfl rfl (genuine_of_running hc hw ho))
  | enter w job core session hw hr hcore =>
    have entry := s.core.entry w job.request
    rw [hcore] at entry
    cases entry with
    | opened hs he hb =>
      refine h.move hr (List.getElem?_set_self (List.getElem?_eq_some_iff.mp hr).1)
        (fun _ hne => List.getElem?_set_ne (Ne.symm hne)) List.length_set
        (keeps_prepared s.core.host (threadOf w) job.request) rfl h.started (fun t ht => ?_)
        (fun _ _ => rfl) ?_ ?_
        fun c o hc => (h.outcomes c o hc).mono (.inr rfl) (List.Subset.refl _)
      · rcases Engine.Activation.isActive_insert.mp ht with rfl | ht
        · exact .inl ⟨rfl, rfl⟩
        · exact .inr ⟨fun _ => rfl, ht⟩
      · rintro run ⟨⟩
        exact job.request.thread_context (threadOf w)
      · rintro run ⟨⟩ own
        exact ⟨job, hw, (alone_of_opened hcore).symm.trans (h.alone hf hn hr own hs)⟩
  | perform w run op next answer session hr hp ho =>
    have hsession : session = (Session.perform operations op (run.session s.core.host)).2 :=
      (congrArg Prod.snd ho).symm
    have thread : session.context.thread = threadOf w := by
      rw [hsession, Session.thread_perform]
      exact h.threads w run hr
    have keeps : Keeps (threadOf w) s.core.host session.host := by
      rw [hsession, ← h.threads w run hr]
      exact keeps_perform op (run.session s.core.host)
    refine h.move hr (List.getElem?_set_self (List.getElem?_eq_some_iff.mp hr).1)
      (fun _ hne => List.getElem?_set_ne (Ne.symm hne)) List.length_set keeps rfl h.started
      (fun t ht => ?_) (fun _ _ => rfl) ?_ ?_
      fun c o hc => (h.outcomes c o hc).mono (.inr rfl) (List.Subset.refl _)
    · by_cases htw : t = threadOf w
      · exact .inl ⟨htw, rfl⟩
      · exact .inr ⟨fun e => absurd e htw, ht⟩
    · rintro run ⟨⟩
      exact thread
    · rintro run' ⟨⟩ own
      obtain ⟨job, hw, hcoming⟩ := h.coming w run hr own
      exact ⟨job, hw, (rest_perform hp ho).trans hcoming⟩
  | leave w run ending job outcome core hr hp hw hcore =>
    have hcore' : core = (s.core.leave w ending (run.session s.core.host)).2 :=
      (congrArg Prod.snd hcore).symm
    obtain ⟨keeps, engine⟩ :=
      leave_keeps s.core ending (s := run.session s.core.host) (h.threads w run hr)
    rw [← hcore'] at keeps engine
    have ho (own : OwnThread first.runs.length w) :
        outcome = first.core.alone interpreter w job.request ∨
          (s.stopped ≠ [] ∧ outcome = .returned (.error .notStarted)) := by
      obtain ⟨job', hw', hcoming⟩ := h.coming w run hr own
      cases hw.symm.trans hw'
      exact .inl ((rest_leave hp hcore).symm.trans hcoming)
    refine h.move hr (List.getElem?_set_self (List.getElem?_eq_some_iff.mp hr).1)
      (fun _ hne => List.getElem?_set_ne (Ne.symm hne)) List.length_set keeps ?_ ?_
      (fun t ht => ?_)
      (fun _ => Pool.State.workers_setWorker_ne (q := Pool.State.afterwards job outcome)) nofun
      nofun (h.outcomes_conclude hw rfl rfl (genuine_of_running hc hw ho))
    · rw [engine]
    · rw [engine]
      exact h.started
    · rw [engine] at ht
      obtain ⟨hne, ht⟩ := Engine.Activation.isActive_release.mp ht
      exact .inr ⟨fun e => absurd e hne, ht⟩
  | stop i hi hs =>
    have bridge : s.core.engine.shutdown.engine.bridge = s.core.engine.bridge := by
      unfold Engine.shutdown
      split <;> rfl
    refine ⟨h.runs, h.slots, ?_, .inr (by simp), ?_, h.threads, ?_, fun c o hc =>
      (h.outcomes c o hc).mono (.inr rfl) (List.subset_append_left _ _)⟩
    · exact (congrArg Engine.Bridge.backend bridge).trans h.backend
    · intro t ha
      exact h.active t (bridge ▸ ha)
    · intro w run hr own
      obtain ⟨job, hw, hcoming⟩ := h.coming w run hr own
      have same : ({ s.core with engine := s.core.engine.shutdown.engine } : Core).rest w run =
          s.core.rest w run :=
        rest_same (h.threads w run hr) (congrArg Engine.Bridge.backend bridge) rfl
      exact ⟨job, hw, same.trans hcoming⟩

end Step

/-! ## 3. The outcomes -/

/-- The core of an executor before its first request: no thread is active, nothing was noted. -/
def Core.fresh (engine : Engine) (slots : Nat) : Core :=
  { engine := { engine with bridge := .ofBackend engine.bridge.backend }, host := .new slots }

theorem core_new {engine : Engine} (ha : engine.bridge.active = .none)
    (processors workers capacity : Nat) (timeout : Option Duration) :
    (State.new engine processors workers capacity timeout).core =
      Core.fresh engine (if workers = 0 then processors else workers) := by
  obtain ⟨version, ⟨backend, active⟩, extensions, started⟩ := engine
  obtain rfl : active = .none := ha
  rfl

theorem isolated_start (interpreter : Script.Interpreter) (engine : Engine)
    (processors workers capacity : Nat) (timeout : Option Duration) (hs : engine.started = true)
    (ha : engine.bridge.active = .none) :
    Isolated interpreter (.new engine processors workers capacity timeout)
      (.new engine processors workers capacity timeout) := by
  have none_runs {w : Nat} {run : Run}
      (hr : (State.new engine processors workers capacity timeout).runs[w]? = some (some run)) :
      False := by
    cases List.eq_of_mem_replicate (List.mem_of_getElem? hr)
  refine ⟨rfl, rfl, rfl, .inl hs, fun t ht => ?_, fun w run hr => (none_runs hr).elim,
    fun w run hr _ => (none_runs hr).elim, fun c o hc => by cases hc⟩
  have ht : engine.bridge.active.isActive t = true := ht
  rw [ha] at ht
  cases ht

theorem isolated_of_reachable {interpreter : Script.Interpreter} {engine : Engine}
    {processors workers capacity : Nat} {timeout : Option Duration} (hs : engine.started = true)
    (ha : engine.bridge.active = .none) {s : State}
    (h : State.Reachable interpreter (.new engine processors workers capacity timeout) s) :
    Isolated interpreter (.new engine processors workers capacity timeout) s :=
  reachable_induction (P := Isolated interpreter _)
    (isolated_start interpreter engine processors workers capacity timeout hs ha)
    (fun hr ih he => isolated_step hs
      (fun t => by show engine.bridge.active.isActive t = false; rw [ha]; rfl)
      (Pool.standing_of_reachable (pool_reachable hr)).2 ih he) h

/-- A request alone never finds its thread busy. -/
theorem alone_ne_threadBusy {engine : Engine} (hs : engine.started = true) (slots : Nat)
    (interpreter : Script.Interpreter) (w : Nat) (request : Script.Request) (thread : Int32) :
    (Core.fresh engine slots).alone interpreter w request ≠
      .returned (.error (.threadBusy thread)) := by
  have entry := (Core.fresh engine slots).entry w request
  generalize hx : (Core.fresh engine slots).enter w request = x at entry
  cases entry with
  | notStarted h => cases hs.symm.trans h
  | emptyScript h he => rw [alone_of_refused hx]; nofun
  | threadBusy h he hb => cases hb
  | opened h he hb => rw [alone_of_opened hx]; exact leave_ne_refused _ _ _ _ _

/-- What the caller of a request is told if nothing else happens. -/
def Core.answer (c : Core) (interpreter : Script.Interpreter) (w : Nat)
    (request : Script.Request) : Except Error Result :=
  State.flatten (c.alone interpreter w request).result

/-- What a caller may be told of a request that ran on a worker: what the request comes to alone,
or that the caller gave up; on an engine that someone stopped, also that it is not started. -/
def Told (interpreter : Script.Interpreter) (fresh : Core) (s : State) (w : Nat)
    (k : Pool.Caller Script.Request (Except Engine.Error Result)) (result : Except Error Result) :
    Prop :=
  result = fresh.answer interpreter w k.request ∨
    (∃ limit, k.limit = some limit ∧ result = .error (.pool (.timeout limit))) ∨
    (s.stopped ≠ [] ∧ result = .error (.engine .notStarted))

/-- **Request isolation.** The outcome of a request that ran on a worker with a thread of its own,
and what its caller is told, are those of the same request alone on that worker. -/
theorem isolation (interpreter : Script.Interpreter) (engine : Engine)
    (processors workers capacity : Nat) (timeout : Option Duration) (hs : engine.started = true)
    (ha : engine.bridge.active = .none) {s : State}
    (h : State.Reachable interpreter (.new engine processors workers capacity timeout) s)
    {c w : Nat} (hw : (c, w) ∈ s.pool.record.handed)
    (own : OwnThread (poolSettings processors workers capacity).workers w) :
    ∃ k, s.pool.callers[c]? = some k ∧
      (∀ o, (c, o) ∈ s.pool.record.ended →
        o = (Core.fresh engine (if workers = 0 then processors else workers)).alone
            interpreter w k.request ∨
          (s.stopped ≠ [] ∧ o = .returned (.error .notStarted))) ∧
      (∀ result, s.result? c = some result → Told interpreter
        (.fresh engine (if workers = 0 then processors else workers)) s w k result) ∧
      ∀ thread, s.result? c ≠ some (.error (.engine (.threadBusy thread))) := by
  have isolated := isolated_of_reachable hs ha h
  have orderly := Pool.orderly_of_reachable (pool_reachable h)
  have handed : c ∈ s.pool.record.handedCallers := List.mem_map.mpr ⟨_, hw, rfl⟩
  have known : c < s.pool.callers.length := by
    refine (Pool.standing_of_reachable (pool_reachable h)).1.known c ?_
    rw [orderly.order]
    exact List.mem_append_left _ (orderly.handed_taken handed)
  have hk := List.getElem?_eq_getElem known
  have outcome (o : HandlerOutcome) (ho : (c, o) ∈ s.pool.record.ended) :
      o = (Core.fresh engine (if workers = 0 then processors else workers)).alone
          interpreter w (s.pool.callers[c]).request ∨
        (s.stopped ≠ [] ∧ o = .returned (.error .notStarted)) := by
    obtain ⟨w', k', hw', hk', hgenuine⟩ := isolated.outcomes c o ho
    obtain rfl := (Pool.mem_iff_of_nodup orderly.handed_once hw w').mp hw'
    obtain rfl := Option.some.inj (hk.symm.trans hk')
    rw [← core_new ha processors workers capacity timeout]
    refine hgenuine ?_
    show OwnThread (List.replicate _ none).length w'
    rw [List.length_replicate]
    exact own
  have told (result : Except Error Result) (hr : s.result? c = some result) :
      Told interpreter (.fresh engine (if workers = 0 then processors else workers)) s w
        (s.pool.callers[c]) result := by
    obtain ⟨answer, hanswer, rfl⟩ := Option.map_eq_some_iff.mp hr
    obtain ⟨k', hk', hp⟩ := Pool.answer?_eq_some.mp hanswer
    obtain rfl := Option.some.inj (hk.symm.trans hk')
    rcases told_of_orderly orderly handed hk hp with ⟨o, ho, rfl⟩ | ⟨limit, hl, rfl⟩
    · rcases outcome o ho with e | ⟨hne, rfl⟩
      · exact .inl (e ▸ rfl)
      · exact .inr (.inr ⟨hne, rfl⟩)
    · exact .inr (.inl ⟨limit, hl, rfl⟩)
  refine ⟨_, hk, outcome, told, fun thread hbusy => ?_⟩
  rcases told _ hbusy with e | ⟨limit, -, e⟩ | ⟨-, e⟩
  · have free := alone_ne_threadBusy hs (if workers = 0 then processors else workers) interpreter w
      (s.pool.callers[c]).request thread
    unfold Core.answer at e
    revert e free
    cases (Core.fresh engine (if workers = 0 then processors else workers)).alone interpreter w
        (s.pool.callers[c]).request with
    | panicked message => exact fun e => by cases e
    | returned value =>
      cases value with
      | ok result => exact fun e => by cases e
      | error e' => exact fun e free => by cases e; exact free rfl
  · cases e
  · cases e

/-- An interpreter that panics on one script and writes a byte on all others. -/
def panicking : Script.Interpreter := fun script =>
  if script = "panic" then .panic "lost" else .ask (.write [33]) fun _ => .done

/-- A request panics, and its slot stays filled; the next one runs on the same worker. -/
def afterPanic : State :=
  (State.new startedEngine 1 1 1 none).play panicking
    ([.submit (requestOf "panic"), .caller 0, .caller 0, .caller 0, .caller 0, .worker 0, .worker 0,
      .worker 0, .worker 0, .enter 0, .leave 0, .worker 0, .worker 0, .worker 0, .worker 0,
      .submit (requestOf "page"), .caller 1, .caller 1, .caller 1, .caller 1, .worker 0, .worker 0,
      .worker 0, .worker 0, .enter 0, .perform 0, .leave 0, .worker 0, .worker 0, .worker 0])

/-- The request after the panic has its answer, and it is that of a request alone. -/
theorem isolation_afterPanic :
    (1, 0) ∈ afterPanic.pool.record.handed ∧ (afterPanic.result? 1).isSome = true ∧
      ∃ k, afterPanic.pool.callers[1]? = some k ∧
        ∀ result, afterPanic.result? 1 = some result →
          Told panicking (.fresh startedEngine 1) afterPanic 0 k result := by
  have handed : (1, 0) ∈ afterPanic.pool.record.handed := by decide +kernel
  have reachable : State.Reachable panicking (.new startedEngine 1 1 1 none) afterPanic :=
    reachable_play .start _
  obtain ⟨k, hk, -, told, -⟩ := isolation panicking startedEngine 1 1 1 none rfl rfl reachable
    handed (ownThread_of_le (by decide) (by decide))
  exact ⟨handed, by decide +kernel, k, hk, told⟩

end ScriptGateway.Executor
