import ScriptGateway.Proofs.Executor.Isolation
/-!
# The cookies of a request, as its script reads them

A request's cookies are put into the slot of its worker before its script runs, and no operation of
any script changes them there. So a script reads the cookies of its own request, as often as it
asks and whatever other scripts do.

* `cookiesFor`: the cookies that a host tells a script; `cookiesFor_perform`: no operation changes
  them.
* `Armed`: the invariant; the slot of a script that runs holds the cookies of its request.
  `Armed.replace`: a step on one worker concerns that worker.
* `cookies_read`: what a script reads, in every reachable state.
-/

namespace ScriptGateway.Executor

open Script (Session)
open WorkerHost

/-! ## 1. The cookies in a slot -/

/-- The cookies that a host tells the script of a thread. -/
def cookiesFor (h : WorkerHost) (thread : Int32) : Option String :=
  (h.slot? thread).bind (·.cookies)

/-- **A script reads the cookies of its own slot.** -/
theorem readCookies_eq (s : Session WorkerHost) :
    (Session.perform operations .readCookies s).1 = cookiesFor s.host s.context.thread :=
  rfl

/-- A change that leaves the cookies of every slot leaves what a script is told. -/
theorem cookiesFor_update (h : WorkerHost) (thread other : Int32) {f : Slot → Slot}
    (hf : ∀ slot, (f slot).cookies = slot.cookies) :
    cookiesFor (h.update thread f) other = cookiesFor h other := by
  unfold cookiesFor
  by_cases same : other = thread
  · rw [same, slot?_update_self]
    cases h.slot? thread with
    | none => rfl
    | some slot => exact hf slot
  · rw [slot?_update_ne f same]

theorem cookiesFor_announce (thread : Int32) (vars : List Script.Variable) (h : WorkerHost)
    (other : Int32) :
    cookiesFor (Engine.Bridge.announce operations thread vars h) other = cookiesFor h other := by
  induction vars generalizing h with
  | nil => rfl
  | cons v vars ih =>
    refine (ih _).trans ?_
    exact cookiesFor_update h thread other fun _ => rfl

theorem cookiesFor_writeOutput (h : WorkerHost) (thread : Int32) (data : Bytes) (other : Int32) :
    cookiesFor (operations.writeOutput thread data h).2 other = cookiesFor h other := by
  simp only [operations]
  split
  · exact cookiesFor_update h thread other fun _ => rfl
  · rfl

theorem cookiesFor_sendHeaders (h : WorkerHost) (thread : Int32) (status : Nat) (headers : Bytes)
    (other : Int32) :
    cookiesFor (operations.sendHeaders thread status headers h).2 other = cookiesFor h other := by
  simp only [operations]
  split
  · exact cookiesFor_update h thread other fun _ => rfl
  · rfl

/-- **No operation of a script changes the cookies of any slot.** -/
theorem cookiesFor_perform (op : Script.Operation) (s : Session WorkerHost) (other : Int32) :
    cookiesFor (Session.perform operations op s).2.host other = cookiesFor s.host other := by
  cases op with
  | write data =>
    simp only [Session.perform, Session.write]
    split
    · rfl
    · exact cookiesFor_writeOutput s.host _ data other
  | sendHeaders => exact cookiesFor_sendHeaders s.host _ _ _ other
  | readBody size =>
    simp only [Session.perform, Session.readBody]
    split
    · rfl
    · split <;> rfl
  | log message priority =>
    exact cookiesFor_update s.host s.context.thread other fun _ => rfl
  | setStatus | addHeader | replaceHeader | removeHeader | clearHeaders | readCookies | look => rfl

/-- What happens in the name of another thread leaves what a script is told. -/
theorem cookiesFor_keeps {thread other : Int32} {h h' : WorkerHost} (k : Keeps thread h h')
    (hne : other ≠ thread) : cookiesFor h' other = cookiesFor h other := by
  unfold cookiesFor
  rw [k.slot other hne]

/-- Every worker has a slot. -/
theorem exists_slot {h : WorkerHost} {w : Nat} (hw : w < h.slots.length) :
    ∃ slot, h.slot? (threadOf w) = some slot := by
  obtain ⟨n, number, inside⟩ : ∃ n : Nat, (threadOf w).toInt = n ∧ n < h.slots.length := by
    by_cases small : w < 2147483648
    · exact ⟨w, toInt_threadOf small, hw⟩
    · -- such a worker shares the last thread, which is below its own number
      have last : threadOf w = Int32.maxValue := if_neg small
      exact ⟨2147483647, last ▸ rfl, by omega⟩
  refine ⟨h.slots[n], ?_⟩
  unfold slot?
  rw [position?_eq_some.mpr ⟨number, inside⟩]
  exact List.getElem?_eq_getElem inside

/-- **A slot that was cleared for a request holds its cookies**, also after the variables were
told. -/
theorem cookiesFor_prepared {host : WorkerHost} {w : Nat} (hw : w < host.slots.length)
    (request : Script.Request) :
    cookiesFor (prepared host (threadOf w) request) (threadOf w) = request.cookies := by
  obtain ⟨slot, hs⟩ := exists_slot hw
  unfold prepared
  rw [cookiesFor_announce, cookiesFor, begin, slot?_update_self, hs]
  rfl

/-! ## 2. The cookies of the requests under way -/

/-- A worker whose slot holds the cookies of the request that it runs. -/
def Supplied (s : State) (w : Nat) : Prop :=
  ∃ job, s.pool.workers[w]? = some (.running job) ∧
    cookiesFor s.core.host (threadOf w) = job.request.cookies

/-- **The slot of a script that runs holds the cookies of its request**, on every worker that has a
thread of its own. -/
structure Armed (slots : Nat) (s : State) : Prop where
  host : s.core.host.slots.length = slots
  runs : s.runs.length = slots
  threads : ∀ (w : Nat) (run : Run), s.runs[w]? = some (some run) → run.context.thread = threadOf w
  cookies : ∀ (w : Nat) (run : Run), s.runs[w]? = some (some run) → OwnThread slots w →
    Supplied s w

section Step

variable {interpreter : Script.Interpreter} {slots : Nat} {s s' : State}

/-- What happens on one worker leaves the cookies of the scripts on all others. -/
theorem Armed.other (h : Armed slots s) {w v : Nat} {x : Option Run} {run : Run}
    (hw : s.runs[w]? = some x) (hne : v ≠ w) (hv : s.runs[v]? = some (some run))
    (own : OwnThread slots v) (workers : s'.pool.workers[v]? = s.pool.workers[v]?)
    (keeps : Keeps (threadOf w) s.core.host s'.core.host) : Supplied s' v := by
  have known : w < slots := h.runs ▸ (List.getElem?_eq_some_iff.mp hw).1
  have apart : threadOf v ≠ threadOf w := fun e => hne (own w known e.symm).symm
  obtain ⟨job, hj, hc⟩ := h.cookies v run hv own
  exact ⟨job, workers.trans hj, (cookiesFor_keeps keeps apart).trans hc⟩

/-- **What happens on one worker has to be looked at there only.** -/
theorem Armed.replace (h : Armed slots s) {w : Nat} {old new : Option Run}
    (hw : s.runs[w]? = some old) (runs : s'.runs = s.runs.set w new)
    (workers : ∀ v, v ≠ w → s'.pool.workers[v]? = s.pool.workers[v]?)
    (keeps : Keeps (threadOf w) s.core.host s'.core.host)
    (thread : ∀ run, new = some run → run.context.thread = threadOf w)
    (supplied : ∀ run, new = some run → OwnThread slots w → Supplied s' w) : Armed slots s' := by
  refine ⟨keeps.length.trans h.host, ?_, fun v run hv => ?_, fun v run hv own => ?_⟩
  · rw [runs, List.length_set, h.runs]
  · rw [runs] at hv
    rcases runs_set hv with ⟨rfl, e⟩ | ⟨-, hv⟩
    · exact thread run e
    · exact h.threads v run hv
  · rw [runs] at hv
    rcases runs_set hv with ⟨rfl, e⟩ | ⟨hne, hv⟩
    · exact supplied run e own
    · exact h.other hw hne hv own (workers v hne) keeps

theorem armed_step {a : Action} (h : Armed slots s) (he : Effect interpreter s a s') :
    Armed slots s' := by
  cases he with
  | pool a b pool ha hs =>
    refine ⟨h.host, h.runs, h.threads, fun w run hr own => ?_⟩
    obtain ⟨job, hw, hc⟩ := h.cookies w run hr own
    exact ⟨job, Pool.running_kept (Pool.effect_of_step hs) hw (Action.pool?_ne_finish ha w), hc⟩
  | refuse w job core outcome hw hr hc =>
    have entry := s.core.entry w job.request
    rw [hc] at entry
    have refused : core = s.core.refused (threadOf w) job.request := by cases entry <;> rfl
    have same : s.runs = s.runs.set w none := by
      obtain ⟨known, e⟩ := List.getElem?_eq_some_iff.mp hr
      rw [← e, List.set_getElem_self]
    have keeps : Keeps (threadOf w) s.core.host core.host :=
      refused ▸ keeps_refused s.core (threadOf w) job.request
    exact h.replace hr same
      (fun v => Pool.State.workers_setWorker_ne (q := Pool.State.afterwards job outcome)) keeps
      nofun nofun
  | enter w job core session hw hr hc =>
    have entry := s.core.entry w job.request
    rw [hc] at entry
    cases entry with
    | opened hs he hb =>
      have known : w < s.core.host.slots.length := by
        rw [h.host, ← h.runs]
        exact (List.getElem?_eq_some_iff.mp hr).1
      refine h.replace hr rfl (fun v _ => rfl) (keeps_prepared s.core.host (threadOf w) job.request)
        (fun run e => ?_) (fun run e own => ?_)
      · cases e
        exact job.request.thread_context (threadOf w)
      · exact ⟨job, hw, cookiesFor_prepared known job.request⟩
  | perform w run op next answer session hr hp ho =>
    have hsession : session = (Session.perform operations op (run.session s.core.host)).2 :=
      (congrArg Prod.snd ho).symm
    have thread : run.context.thread = threadOf w := h.threads w run hr
    have keeps : Keeps run.context.thread s.core.host session.host :=
      hsession ▸ keeps_perform op (run.session s.core.host)
    refine h.replace hr rfl (fun v _ => rfl) (thread ▸ keeps) (fun run' e => ?_)
      (fun run' e own => ?_)
    · cases e
      rw [hsession, Session.thread_perform]
      exact thread
    · obtain ⟨job, hw, hc⟩ := h.cookies w run hr own
      have kept := cookiesFor_perform op (run.session s.core.host) (threadOf w)
      rw [← hsession] at kept
      exact ⟨job, hw, kept.trans hc⟩
  | leave w run ending job outcome core hr hp hw hc =>
    have left : core = (s.core.leave w ending (run.session s.core.host)).2 :=
      (congrArg Prod.snd hc).symm
    obtain ⟨keeps, -⟩ := leave_keeps s.core ending (s := run.session s.core.host)
      (h.threads w run hr)
    rw [← left] at keeps
    exact h.replace hr rfl
      (fun v => Pool.State.workers_setWorker_ne (q := Pool.State.afterwards job outcome)) keeps
      nofun nofun
  | stop i hi hs => exact ⟨h.host, h.runs, h.threads, h.cookies⟩

end Step

/-! ## 3. What a script reads -/

theorem armed_start (engine : Engine) {processors : Nat} (hp : 0 < processors)
    (workers capacity : Nat) (timeout : Option Duration) :
    Armed (poolSettings processors workers capacity).workers
      (.new engine processors workers capacity timeout) := by
  have some_workers : 0 < if workers = 0 then processors else workers := by
    split <;> omega
  have count : (poolSettings processors workers capacity).workers =
      if workers = 0 then processors else workers := Nat.max_eq_left some_workers
  have no_run {w : Nat} {run : Run}
      (hr : (State.new engine processors workers capacity timeout).runs[w]? = some (some run)) :
      False := by
    cases List.eq_of_mem_replicate (List.mem_of_getElem? hr)
  refine ⟨?_, List.length_replicate, fun _ _ hr => (no_run hr).elim,
    fun _ _ hr _ => (no_run hr).elim⟩
  rw [count]
  exact List.length_replicate

/-- **A script reads the cookies of its own request**, in every state that an executor comes to,
whatever else runs on it. -/
theorem cookies_read {interpreter : Script.Interpreter} {engine : Engine}
    {processors workers capacity : Nat} {timeout : Option Duration} (hp : 0 < processors)
    {s : State}
    (h : State.Reachable interpreter (.new engine processors workers capacity timeout) s)
    {w : Nat} {run : Run} {job : Pool.Job Script.Request} (hr : s.runs[w]? = some (some run))
    (hw : s.pool.workers[w]? = some (.running job))
    (own : OwnThread (poolSettings processors workers capacity).workers w) :
    (Session.perform operations .readCookies (run.session s.core.host)).1 =
      job.request.cookies := by
  have armed : Armed (poolSettings processors workers capacity).workers s :=
    reachable_induction (P := Armed _) (armed_start engine hp workers capacity timeout)
      (fun _ ih he => armed_step ih he) h
  obtain ⟨job', hw', hc⟩ := armed.cookies w run hr own
  obtain rfl : job = job' := by
    cases hw.symm.trans hw'
    rfl
  rw [readCookies_eq]
  show cookiesFor s.core.host run.context.thread = _
  rw [armed.threads w run hr, hc]

end ScriptGateway.Executor
