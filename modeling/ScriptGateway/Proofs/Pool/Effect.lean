import ScriptGateway.Pool.Machine
import Mathlib.Data.List.Basic
/-!
# What one step of the pool does

Every invariant of the pool is proved over the rules of this file, never over `State.step?`.

* `Effect s a s'`: the state `s'` that action `a` leads to from `s`, one rule per kind of change.
  The moves of a caller or a worker that touch nothing but its phase and the counters are one
  rule each (`CallerMove`, `WorkerMove`).
* `effect_of_step`: whatever `State.step?` does is one of the rules.
* `reachable_induction`: a property of new pools that every rule keeps holds of all reachable ones.
-/

namespace ScriptGateway.Pool

variable {α β : Type}

/-! ## 1. Moves that concern one actor -/

/-- The moves of a caller on its own, with what they do to the counters. -/
inductive CallerMove (s : State α β) :
    CallerPhase β → (Counters → Counters) → CallerPhase β → Prop where
  | refused (h : s.flagged = true) : CallerMove s .arrived id (.answered (.error .shutdown))
  | passed (h : s.flagged = false) : CallerMove s .arrived id .checked
  | cloned (h : s.senderThere = true) : CallerMove s .checked id .cloned
  | missed (h : s.senderThere = false) : CallerMove s .checked id (.answered (.error .shutdown))
  | counted : CallerMove s .cloned (fun n => { n with pending := n.pending + 1 }) .counted
  | cut (h : s.isAbandoned = true) : CallerMove s .counted id .cut
  | full (h : s.isAbandoned = false) (hr : s.hasRoom = false) : CallerMove s .counted id .full
  | uncounted : CallerMove s .full (fun n => { n with pending := n.pending - 1 }) .uncounted
  | rejected : CallerMove s .uncounted (fun n => { n with rejected := n.rejected + 1 }) .rejected
  | told : CallerMove s .rejected id
      (.answered (.error (.queueFull s.settings.capacity s.counters.pending)))
  | dropped : CallerMove s .cut (fun n => { n with pending := n.pending - 1 })
      (.answered (.error .shutdown))
  | timedOut (limit : Duration) : CallerMove s (.expired limit)
      (fun n => { n with timeouts := n.timeouts + 1 }) (.answered (.error (.timeout limit)))

/-- The moves of a worker on its own, with what they do to the counters. -/
inductive WorkerMove (s : State α β) :
    WorkerPhase α β → (Counters → Counters) → WorkerPhase α β → Prop where
  | listen (h : s.workers.any WorkerPhase.isListening = false) : WorkerMove s .idle id .listening
  | unpend (job : Job α) : WorkerMove s (.received job)
      (fun n => { n with pending := n.pending - 1 }) (.dequeued job)
  | panic (job : Job α) (message : String) : WorkerMove s (.panicked job message)
      (fun n => { n with panics := n.panics + 1 }) (.ended job (.error (.workerPanic message)))
  | unbusy (job : Job α) (result : Except Error β) : WorkerMove s (.ended job result)
      (fun n => { n with busy := n.busy - 1 }) (.leaving job result)
  | done (job : Job α) (result : Except Error β) : WorkerMove s (.leaving job result)
      (fun n => { n with executed := n.executed + 1 }) (.replying job result)

/-! ## 2. The rules -/

namespace State

/-- A worker hands its job to the handler. -/
def hand (s : State α β) (index : Nat) (job : Job α) : State α β :=
  let s := (s.count fun n => { n with busy := n.busy + 1 }).setWorker index (.running job)
  { s with record := { s.record with handed := s.record.handed ++ [(job.caller, index)] } }

/-- Where a worker stands once the handler ended. -/
def afterwards (job : Job α) : Outcome β → WorkerPhase α β
  | .returned value => .ended job (.ok value)
  | .panicked message => .panicked job message

/-- The handler ends on a worker. -/
def conclude (s : State α β) (index : Nat) (job : Job α) (outcome : Outcome β) : State α β :=
  { s.setWorker index (afterwards job outcome) with
    record := { s.record with ended := s.record.ended ++ [(job.caller, outcome)] } }

end State

/-- **What one step does.** -/
inductive Effect (s : State α β) : Action α β → State α β → Prop where
  | submit (request : α) (limit : Option Duration) : Effect s (.submit request limit)
      { s with callers := s.callers ++ [{ request, limit, phase := .arrived }] }
  | caller (i : Nat) (k : Caller α β) (f : Counters → Counters) (p : CallerPhase β)
      (hk : s.callers[i]? = some k) (hm : CallerMove s k.phase f p) :
      Effect s (.caller i) ((s.count f).setCaller i p)
  | expire (i : Nat) (k : Caller α β) (limit : Duration) (hk : s.callers[i]? = some k)
      (hp : k.phase = .waiting) (hl : k.limit = some limit) :
      Effect s (.expire i) (s.setCaller i (.expired limit))
  | accept (i : Nat) (k : Caller α β) (hk : s.callers[i]? = some k) (hp : k.phase = .counted)
      (ha : s.isAbandoned = false) (hr : s.hasRoom = true) :
      Effect s (.caller i) (s.accept i k.request)
  | worker (w : Nat) (p p' : WorkerPhase α β) (f : Counters → Counters)
      (hw : s.workers[w]? = some p) (hm : WorkerMove s p f p') :
      Effect s (.worker w) ((s.count f).setWorker w p')
  | take (w : Nat) (job : Job α) (rest : List (Job α)) (hw : s.workers[w]? = some .listening)
      (hq : s.queue = job :: rest) : Effect s (.worker w) (s.take w job rest)
  | hand (w : Nat) (job : Job α) (hw : s.workers[w]? = some (.dequeued job)) :
      Effect s (.worker w) (s.hand w job)
  | finish (w : Nat) (job : Job α) (outcome : Outcome β)
      (hw : s.workers[w]? = some (.running job)) :
      Effect s (.finish w outcome) (s.conclude w job outcome)
  | reply (w : Nat) (job : Job α) (result : Except Error β)
      (hw : s.workers[w]? = some (.replying job result)) :
      Effect s (.worker w) ((s.reply job.caller result).setWorker w .idle)
  | exit (w : Nat) (hw : s.workers[w]? = some .listening) (hq : s.queue = [])
      (hs : s.hasSender = false) : Effect s (.worker w) (s.setWorker w .exited)
  | close : Effect s .close { s with closers := s.closers ++ [.arrived] }
  | flag (i : Nat) (hi : s.closers[i]? = some .arrived) (hf : s.flagged = false) :
      Effect s (.closer i) { s.setCloser i .first with flagged := true }
  | again (i : Nat) (hi : s.closers[i]? = some .arrived) (hf : s.flagged = true) :
      Effect s (.closer i) (s.setCloser i .closed)
  | takeSender (i : Nat) (hi : s.closers[i]? = some .first) :
      Effect s (.closer i) { s.setCloser i .closed with senderThere := false }
  | collect (i : Nat) (hi : s.closers[i]? = some .closed) :
      Effect s (.closer i) { s.setCloser i (.joining s.handles) with handles := [] }
  | join (i : Nat) (workers : List Nat) (hi : s.closers[i]? = some (.joining workers))
      (hw : ∀ w ∈ workers, (s.workers[w]?).all WorkerPhase.isExited = true) :
      Effect s (.closer i) (s.setCloser i .joined)

/-! ## 3. Reading an updated state -/

namespace State

theorem callers_setCaller {s : State α β} {i c : Nat} {p : CallerPhase β} {k : Caller α β}
    (h : (s.setCaller i p).callers[c]? = some k) :
    (c = i ∧ ∃ k₀, s.callers[i]? = some k₀ ∧ k = { k₀ with phase := p }) ∨
      (c ≠ i ∧ s.callers[c]? = some k) := by
  simp only [setCaller] at h
  by_cases hc : c = i
  · subst hc
    rw [List.getElem?_modify_eq] at h
    obtain ⟨k₀, hk₀, e⟩ := Option.map_eq_some_iff.mp h
    exact .inl ⟨rfl, k₀, hk₀, e.symm⟩
  · rw [List.getElem?_modify_ne _ _ (Ne.symm hc)] at h
    exact .inr ⟨hc, h⟩

theorem callers_reply {s : State α β} {i c : Nat} {result : Except Error β} {k : Caller α β}
    (h : (s.reply i result).callers[c]? = some k) :
    (s.callers[c]? = some k ∧ (c = i → k.phase.isWaiting = false)) ∨
      (c = i ∧ ∃ k₀, s.callers[i]? = some k₀ ∧ k₀.phase = .waiting ∧
        k = { k₀ with phase := .answered result }) := by
  simp only [reply] at h
  by_cases hc : c = i
  · subst hc
    rw [List.getElem?_modify_eq] at h
    obtain ⟨⟨request, limit, phase⟩, hk₀, e⟩ := Option.map_eq_some_iff.mp h
    cases phase with
    | waiting => exact .inr ⟨rfl, _, hk₀, rfl, e.symm⟩
    | _ => subst e; exact .inl ⟨hk₀, fun _ => rfl⟩
  · rw [List.getElem?_modify_ne _ _ (Ne.symm hc)] at h
    exact .inl ⟨h, fun e => absurd e hc⟩

theorem workers_setWorker {s : State α β} {w v : Nat} {p q : WorkerPhase α β}
    (h : (s.setWorker w p).workers[v]? = some q) :
    (v = w ∧ q = p) ∨ (v ≠ w ∧ s.workers[v]? = some q) := by
  simp only [setWorker] at h
  by_cases hv : v = w
  · subst hv
    rw [List.getElem?_set_self'] at h
    obtain ⟨q₀, -, e⟩ := Option.map_eq_some_iff.mp h
    exact .inl ⟨rfl, e.symm⟩
  · rw [List.getElem?_set_ne (Ne.symm hv)] at h
    exact .inr ⟨hv, h⟩

theorem workers_setWorker_self {s : State α β} {w : Nat} {p q : WorkerPhase α β}
    (h : s.workers[w]? = some p) : (s.setWorker w q).workers[w]? = some q :=
  List.getElem?_set_self (List.getElem?_eq_some_iff.mp h).1

theorem workers_setWorker_ne {s : State α β} {w v : Nat} {q : WorkerPhase α β} (hv : v ≠ w) :
    (s.setWorker w q).workers[v]? = s.workers[v]? :=
  List.getElem?_set_ne (Ne.symm hv)

end State

/-- An element of a list with one more at the end is an old one or that one. -/
theorem getElem?_concat {γ : Type} {l : List γ} {a b : γ} {i : Nat}
    (h : (l ++ [a])[i]? = some b) : l[i]? = some b ∨ (i = l.length ∧ b = a) := by
  rcases Nat.lt_or_ge i l.length with hi | hi
  · rw [List.getElem?_append_left hi] at h
    exact .inl h
  · rw [List.getElem?_append_right hi, List.getElem?_singleton] at h
    split at h
    · next e => exact .inr ⟨by omega, (Option.some.inj h).symm⟩
    · cases h

/-- Replacing one element of a list moves a count by what the two elements add to it. -/
theorem countP_set_add {γ : Type} {l : List γ} {i : Nat} {a b : γ} (p : γ → Bool)
    (h : l[i]? = some a) :
    (l.set i b).countP p + (if p a then 1 else 0) = l.countP p + (if p b then 1 else 0) := by
  induction l generalizing i with
  | nil => cases h
  | cons x l ih =>
    cases i with
    | zero =>
      obtain rfl := Option.some.inj h
      simp only [List.set_cons_zero, List.countP_cons]
      omega
    | succ i =>
      have := ih h
      simp only [List.set_cons_succ, List.countP_cons]
      omega

/-! ## 4. The machine follows the rules -/

namespace State

/-- With an empty queue an exit drops no job. -/
theorem exit_of_empty (s : State α β) (w : Nat) (hq : s.queue = []) :
    s.exit w = s.setWorker w .exited := by
  show (if (s.setWorker w .exited).isAbandoned then
    { s.queue.foldl (fun s job => s.reply job.caller (.error .channelClosed))
        (s.setWorker w .exited) with queue := [] }
    else s.setWorker w .exited) = s.setWorker w .exited
  rw [hq]
  split
  · show { s.setWorker w .exited with queue := [] } = s.setWorker w .exited
    rw [← hq]
    rfl
  · rfl

@[simp] theorem count_id (s : State α β) : s.count id = s := rfl

end State

theorem effect_of_callerStep {s s' : State α β} {i : Nat} {k : Caller α β}
    (hk : s.callers[i]? = some k) (h : s.callerStep? i k = some s') : Effect s (.caller i) s' := by
  have move {f : Counters → Counters} {p : CallerPhase β} (hm : CallerMove s k.phase f p)
      (e : (s.count f).setCaller i p = s') : Effect s (.caller i) s' := e ▸ .caller i k f p hk hm
  obtain ⟨request, limit, phase⟩ := k
  cases phase with
  | arrived =>
    simp only [State.callerStep?, Option.some.injEq] at h
    cases hf : s.flagged with
    | true => exact move (.refused hf) (by simpa [hf] using h)
    | false => exact move (.passed hf) (by simpa [hf] using h)
  | checked =>
    simp only [State.callerStep?, Option.some.injEq] at h
    cases hf : s.senderThere with
    | true => exact move (.cloned hf) (by simpa [hf] using h)
    | false => exact move (.missed hf) (by simpa [hf] using h)
  | cloned => exact move .counted (Option.some.inj h)
  | counted =>
    simp only [State.callerStep?, Option.some.injEq] at h
    cases ha : s.isAbandoned with
    | true => exact move (.cut ha) (by simpa [ha] using h)
    | false =>
      cases hr : s.hasRoom with
      | true =>
        have e : s.accept i request = s' := by simpa [ha, hr] using h
        exact e ▸ .accept i _ hk rfl ha hr
      | false => exact move (.full ha hr) (by simpa [ha, hr] using h)
  | waiting => cases h
  | full => exact move .uncounted (Option.some.inj h)
  | uncounted => exact move .rejected (Option.some.inj h)
  | rejected => exact move .told (Option.some.inj h)
  | cut => exact move .dropped (Option.some.inj h)
  | expired limit => exact move (.timedOut limit) (Option.some.inj h)
  | answered result => cases h

theorem effect_of_workerStep {s s' : State α β} {w : Nat} {p : WorkerPhase α β}
    (hw : s.workers[w]? = some p) (h : s.workerStep? w p = some s') : Effect s (.worker w) s' := by
  have move {f : Counters → Counters} {p' : WorkerPhase α β} (hm : WorkerMove s p f p')
      (e : (s.count f).setWorker w p' = s') : Effect s (.worker w) s' := e ▸ .worker w p p' f hw hm
  cases p with
  | idle =>
    simp only [State.workerStep?] at h
    split at h
    · cases h
    · next hl => exact move (.listen (Bool.eq_false_iff.mpr hl)) (Option.some.inj h)
  | listening =>
    simp only [State.workerStep?] at h
    split at h
    · next job rest hq => exact Option.some.inj h ▸ .take w job rest hw hq
    · next hq =>
      split at h
      · cases h
      · next hs =>
        rw [State.exit_of_empty s w hq] at h
        exact Option.some.inj h ▸ .exit w hw hq (Bool.eq_false_iff.mpr hs)
  | received job => exact move (.unpend job) (Option.some.inj h)
  | dequeued job => exact Option.some.inj h ▸ .hand w job hw
  | running job => cases h
  | panicked job message => exact move (.panic job message) (Option.some.inj h)
  | ended job result => exact move (.unbusy job result) (Option.some.inj h)
  | leaving job result => exact move (.done job result) (Option.some.inj h)
  | replying job result => exact Option.some.inj h ▸ .reply w job result hw
  | exited => cases h

theorem effect_of_closerStep {s s' : State α β} {i : Nat} {p : CloserPhase}
    (hi : s.closers[i]? = some p) (h : s.closerStep? i p = some s') : Effect s (.closer i) s' := by
  cases p with
  | arrived =>
    simp only [State.closerStep?, Option.some.injEq] at h
    cases hf : s.flagged with
    | true => exact (show s.setCloser i .closed = s' by simpa [hf] using h) ▸ .again i hi hf
    | false =>
      have e : { s.setCloser i .first with flagged := true } = s' := by simpa [hf] using h
      exact e ▸ .flag i hi hf
  | first => exact Option.some.inj h ▸ .takeSender i hi
  | closed => exact Option.some.inj h ▸ .collect i hi
  | joining workers =>
    simp only [State.closerStep?] at h
    split at h
    · next hw => exact Option.some.inj h ▸ .join i workers hi (List.all_eq_true.mp hw)
    · cases h
  | joined => cases h

/-- **Whatever a step does is one of the rules.** -/
theorem effect_of_step {s s' : State α β} {a : Action α β} (h : s.step? a = some s') :
    Effect s a s' := by
  cases a with
  | submit request limit => exact Option.some.inj h ▸ .submit request limit
  | caller i =>
    obtain ⟨k, hk, h⟩ := Option.bind_eq_some_iff.mp h
    exact effect_of_callerStep hk h
  | expire i =>
    obtain ⟨⟨request, limit, phase⟩, hk, h⟩ := Option.bind_eq_some_iff.mp h
    simp only [State.expire?] at h
    split at h
    · exact Option.some.inj h ▸ .expire i _ _ hk rfl rfl
    · cases h
  | worker w =>
    obtain ⟨p, hw, h⟩ := Option.bind_eq_some_iff.mp h
    exact effect_of_workerStep hw h
  | finish w outcome =>
    obtain ⟨p, hw, h⟩ := Option.bind_eq_some_iff.mp h
    cases p with
    | running job =>
      have e : s.conclude w job outcome = s' := by
        cases outcome <;> exact Option.some.inj h
      exact e ▸ .finish w job outcome hw
    | _ => cases h
  | close => exact Option.some.inj h ▸ .close
  | closer i =>
    obtain ⟨p, hi, h⟩ := Option.bind_eq_some_iff.mp h
    exact effect_of_closerStep hi h

/-- **The induction over all orders of steps**: what holds of a new pool and is kept by every
rule holds of every reachable state. -/
theorem reachable_induction {settings : Settings} {P : State α β → Prop}
    (start : P (.new settings))
    (step : ∀ {s s' : State α β} {a : Action α β},
      s.Reachable settings → P s → Effect s a s' → P s')
    {s : State α β} (h : s.Reachable settings) : P s := by
  induction h with
  | start => exact start
  | step hr a hs ih => exact step hr ih (effect_of_step hs)

end ScriptGateway.Pool
