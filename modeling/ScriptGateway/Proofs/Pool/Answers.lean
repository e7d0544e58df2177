import ScriptGateway.Proofs.Pool.Ledger
/-!
# What callers are told

The answer of a caller is the outcome of its own job, or says truly that the job was never
queued, or that the caller itself gave up. No caller is told that its channel closed.

* `Sealed`: a worker exits only when nobody can send any more; from then on the queue stays empty.
  This covers a caller that passed the flag, or copied the sender, before the pool was shut down.
* `Stands`: what the record says of a caller in each of its phases.
* `Standing`, `Carried`: the invariants on callers and on the jobs under way.
-/

namespace ScriptGateway.Pool

variable {α β : Type}

/-! ## 1. The end of the queue -/

theorem hasSender_eq_false {s : State α β} : s.hasSender = false ↔
    s.senderThere = false ∧
      ∀ (c : Nat) (k : Caller α β), s.callers[c]? = some k → k.phase.holdsSender = false := by
  simp only [State.hasSender, Bool.or_eq_false_iff, List.any_eq_false, Bool.not_eq_true,
    List.mem_iff_getElem?]
  exact and_congr_right fun _ => ⟨fun h c k hk => h k ⟨c, hk⟩, fun h k ⟨c, hk⟩ => h c k hk⟩

/-- An abandoned pool has a worker that exited, since it has a worker. -/
theorem exited_of_isAbandoned {s : State α β} (hn : 0 < s.workers.length)
    (h : s.isAbandoned = true) : s.workers[0]? = some .exited := by
  have h0 := List.all_eq_true.mp h _ (List.getElem_mem hn)
  rw [List.getElem?_eq_getElem hn]
  cases e : s.workers[0] with
  | exited => rfl
  | _ => rw [e] at h0; cases h0

/-- A caller gets a copy of the sender only from the pool. -/
theorem CallerMove.holdsSender {s : State α β} {p p' : CallerPhase β} {f : Counters → Counters}
    (h : CallerMove s p f p') (hp : p.holdsSender = false) (hs : s.senderThere = false) :
    p'.holdsSender = false := by
  cases h with
  | cloned h => rw [hs] at h; cases h
  | counted => cases hp
  | cut => cases hp
  | full => cases hp
  | uncounted => cases hp
  | rejected => cases hp
  | _ => rfl

/-- **The end of the queue**: who has shut down raised the flag, and a worker that exited leaves
an empty queue that nobody can add to. -/
structure Sealed (settings : Settings) (s : State α β) : Prop where
  sameSettings : s.settings = settings
  workers : s.workers.length = settings.workers
  closers : ∀ (i : Nat) (p : CloserPhase), s.closers[i]? = some p → p ≠ .arrived → s.flagged = true
  flagged : s.senderThere = false → s.flagged = true
  exited : ∀ w : Nat, s.workers[w]? = some .exited → s.queue = [] ∧ s.hasSender = false

theorem sealed_start (settings : Settings) : Sealed settings (.new settings : State α β) where
  sameSettings := rfl
  workers := List.length_replicate
  closers i p h _ := by cases h
  flagged h := by cases h
  exited w h := by
    simp only [State.new, List.getElem?_replicate] at h
    split at h <;> cases h

/-- Who sets a worker to another phase has not let it exit. -/
theorem exited_of_setWorker {s : State α β} {w v : Nat} {q : WorkerPhase α β} (hq : q ≠ .exited)
    (h : (s.setWorker w q).workers[v]? = some .exited) : s.workers[v]? = some .exited := by
  rcases State.workers_setWorker h with ⟨-, e⟩ | ⟨-, h⟩
  · exact absurd e.symm hq
  · exact h

theorem hasSender_setCaller {s : State α β} {i : Nat} {p : CallerPhase β}
    (h : s.hasSender = false) (hp : p.holdsSender = false) :
    (s.setCaller i p).hasSender = false := by
  obtain ⟨hs, hc⟩ := hasSender_eq_false.mp h
  refine hasSender_eq_false.mpr ⟨hs, fun c k hk => ?_⟩
  rcases State.callers_setCaller hk with ⟨-, k₀, -, rfl⟩ | ⟨-, hk⟩
  · exact hp
  · exact hc c k hk

theorem hasSender_reply {s : State α β} {i : Nat} {result : Except Error β}
    (h : s.hasSender = false) : (s.reply i result).hasSender = false := by
  obtain ⟨hs, hc⟩ := hasSender_eq_false.mp h
  refine hasSender_eq_false.mpr ⟨hs, fun c k hk => ?_⟩
  rcases State.callers_reply hk with ⟨hk, -⟩ | ⟨-, k₀, -, -, rfl⟩
  · exact hc c k hk
  · rfl

/-- Nobody but an arrived closer changes its phase without the flag being up. -/
theorem closers_setCloser {s : State α β} {i : Nat} {p q : CloserPhase}
    (h : ∀ (i : Nat) (p : CloserPhase), s.closers[i]? = some p → p ≠ .arrived → s.flagged = true)
    (hi : s.closers[i]? = some p) (hp : p ≠ .arrived) : ∀ (j : Nat) (p' : CloserPhase),
      (s.setCloser i q).closers[j]? = some p' → p' ≠ .arrived → s.flagged = true :=
  fun _ _ _ _ => h i p hi hp

theorem sealed_step {settings : Settings} {s s' : State α β} {a : Action α β}
    (h : Sealed settings s) (he : Effect s a s') : Sealed settings s' := by
  have set (w : Nat) (q : WorkerPhase α β) : (s.workers.set w q).length = settings.workers :=
    List.length_set.trans h.workers
  cases he with
  | submit request limit =>
    refine ⟨h.sameSettings, h.workers, h.closers, h.flagged, fun w hw => ⟨(h.exited w hw).1, ?_⟩⟩
    have hs := (h.exited w hw).2
    simp only [State.hasSender, List.any_append, List.any_cons, List.any_nil] at hs ⊢
    simpa [CallerPhase.holdsSender] using hs
  | caller i k f p hk hm =>
    refine ⟨h.sameSettings, h.workers, h.closers, h.flagged, fun w hw => ⟨(h.exited w hw).1, ?_⟩⟩
    obtain ⟨hs, hc⟩ := hasSender_eq_false.mp (h.exited w hw).2
    exact hasSender_setCaller (s := s.count f) (h.exited w hw).2 (hm.holdsSender (hc i k hk) hs)
  | expire i k limit hk hp hl =>
    exact ⟨h.sameSettings, h.workers, h.closers, h.flagged, fun w hw =>
      ⟨(h.exited w hw).1, hasSender_setCaller (h.exited w hw).2 rfl⟩⟩
  | accept i k hk hp ha hr =>
    refine ⟨h.sameSettings, h.workers, h.closers, h.flagged, fun w hw => ?_⟩
    -- the caller still has its copy of the sender, so no worker can have exited
    have := (hasSender_eq_false.mp (h.exited w hw).2).2 i k hk
    rw [hp] at this
    cases this
  | worker w p p' f hw hm =>
    exact ⟨h.sameSettings, set w p', h.closers, h.flagged,
      fun v hv => h.exited v (exited_of_setWorker (s := s.count f) (by cases hm <;> nofun) hv)⟩
  | take w job rest hw hq =>
    refine ⟨h.sameSettings, set w _, h.closers, h.flagged, fun v hv => ?_⟩
    have := (h.exited v (exited_of_setWorker (q := .received job) nofun hv)).1
    rw [hq] at this
    cases this
  | hand w job hw =>
    exact ⟨h.sameSettings, set w _, h.closers, h.flagged,
      fun v hv => h.exited v (exited_of_setWorker (q := .running job) nofun hv)⟩
  | finish w job outcome hw =>
    exact ⟨h.sameSettings, set w _, h.closers, h.flagged,
      fun v hv => h.exited v (exited_of_setWorker (by cases outcome <;> nofun) hv)⟩
  | reply w job result hw =>
    refine ⟨h.sameSettings, set w _, h.closers, h.flagged, fun v hv => ?_⟩
    have hx := h.exited v
      (exited_of_setWorker (s := s.reply job.caller result) (q := .idle) nofun hv)
    exact ⟨hx.1, hasSender_reply hx.2⟩
  | exit w hw hq hs =>
    exact ⟨h.sameSettings, set w _, h.closers, h.flagged, fun _ _ => ⟨hq, hs⟩⟩
  | close =>
    refine ⟨h.sameSettings, h.workers, fun i p hi hp => ?_, h.flagged, h.exited⟩
    rcases getElem?_concat hi with hi | ⟨-, rfl⟩
    · exact h.closers i p hi hp
    · exact absurd rfl hp
  | flag i hi hf => exact ⟨h.sameSettings, h.workers, fun _ _ _ _ => rfl, fun _ => rfl, h.exited⟩
  | again i hi hf => exact ⟨h.sameSettings, h.workers, fun _ _ _ _ => hf, h.flagged, h.exited⟩
  | takeSender i hi =>
    have hf := h.closers i _ hi nofun
    refine ⟨h.sameSettings, h.workers, fun _ _ _ _ => hf, fun _ => hf, fun w hw => ?_⟩
    have hx := h.exited w hw
    exact ⟨hx.1, hasSender_eq_false.mpr ⟨rfl, (hasSender_eq_false.mp hx.2).2⟩⟩
  | collect i hi =>
    exact ⟨h.sameSettings, h.workers, closers_setCloser h.closers hi nofun, h.flagged, h.exited⟩
  | join i workers hi hw =>
    exact ⟨h.sameSettings, h.workers, closers_setCloser h.closers hi nofun, h.flagged, h.exited⟩

theorem sealed_of_reachable {settings : Settings} {s : State α β} (h : s.Reachable settings) :
    Sealed settings s :=
  reachable_induction (sealed_start settings) (fun _ ih he => sealed_step ih he) h

/-! ## 2. What the record says of a caller -/

/-- **A true answer**: an outcome is that of the caller's own job; a refused caller has no job in
the record; who timed out had that limit. -/
def Justified (s : State α β) (c : Nat) (k : Caller α β) : Except Error β → Prop
  | .ok value => (c, .returned value) ∈ s.record.ended
  | .error (.workerPanic message) => (c, .panicked message) ∈ s.record.ended
  | .error (.timeout limit) => c ∈ s.record.accepted ∧ k.limit = some limit
  | .error (.queueFull _ _) => c ∉ s.record.accepted
  | .error .shutdown => c ∉ s.record.accepted
  | .error .channelClosed => False
  | .error (.spawn _) => False

/-- What the record says of a caller in each of its phases. -/
def Stands (s : State α β) (c : Nat) (k : Caller α β) : Prop :=
  match k.phase with
  | .arrived => c ∉ s.record.accepted
  | .checked => c ∉ s.record.accepted
  | .cloned => c ∉ s.record.accepted
  | .counted => c ∉ s.record.accepted
  | .waiting => c ∈ s.record.accepted
  | .full => c ∉ s.record.accepted
  | .uncounted => c ∉ s.record.accepted
  | .rejected => c ∉ s.record.accepted
  | .cut => False
  | .expired limit => c ∈ s.record.accepted ∧ k.limit = some limit
  | .answered result => Justified s c k result

theorem Justified.mono {s s' : State α β} {c : Nat} {k : Caller α β} {result : Except Error β}
    (h : Justified s c k result) (ha : c ∈ s'.record.accepted ↔ c ∈ s.record.accepted)
    (he : s.record.ended ⊆ s'.record.ended) : Justified s' c k result := by
  cases result with
  | ok value => exact he h
  | error e =>
    cases e with
    | workerPanic message => exact he h
    | timeout limit => exact ⟨ha.mpr h.1, h.2⟩
    | queueFull capacity pending => exact fun hc => h (ha.mp hc)
    | shutdown => exact fun hc => h (ha.mp hc)
    | channelClosed => exact h
    | spawn message => exact h

theorem Stands.mono {s s' : State α β} {c : Nat} {k : Caller α β} (h : Stands s c k)
    (ha : c ∈ s'.record.accepted ↔ c ∈ s.record.accepted)
    (he : s.record.ended ⊆ s'.record.ended) : Stands s' c k := by
  obtain ⟨request, limit, phase⟩ := k
  cases phase with
  | waiting => exact ha.mpr h
  | expired limit => exact ⟨ha.mpr h.1, h.2⟩
  | answered result => exact Justified.mono h ha he
  | cut => exact h
  | _ => exact fun hc => h (ha.mp hc)

/-- A caller's move on its own keeps what the record says of it, if the pool is not abandoned. -/
theorem CallerMove.stands {s : State α β} {c : Nat} {k : Caller α β} {f : Counters → Counters}
    {p : CallerPhase β} (hm : CallerMove s k.phase f p) (h : Stands s c k)
    (hn : k.phase = .counted → s.isAbandoned = false) : Stands s c { k with phase := p } := by
  obtain ⟨request, limit, phase⟩ := k
  cases hm with
  | cut ha => rw [hn rfl] at ha; cases ha
  | dropped => exact h.elim
  | _ => exact h

/-- The answer that an outcome stands for is a true one. -/
theorem justified_result {s : State α β} {c : Nat} {k : Caller α β} {outcome : Outcome β}
    (h : (c, outcome) ∈ s.record.ended) : Justified s c k outcome.result := by
  cases outcome <;> exact h

/-! ## 3. The jobs under way -/

/-- What the record says of a worker in each of its phases. -/
def Booked (s : State α β) (w : Nat) : WorkerPhase α β → Prop
  | .running job => (job.caller, w) ∈ s.record.handed
  | .panicked job message => (job.caller, .panicked message) ∈ s.record.ended
  | .ended job result => ∃ o, (job.caller, o) ∈ s.record.ended ∧ result = o.result
  | .leaving job result => ∃ o, (job.caller, o) ∈ s.record.ended ∧ result = o.result
  | .replying job result => ∃ o, (job.caller, o) ∈ s.record.ended ∧ result = o.result
  | _ => True

theorem Booked.mono {s s' : State α β} {w : Nat} {p : WorkerPhase α β} (h : Booked s w p)
    (hh : s.record.handed ⊆ s'.record.handed) (he : s.record.ended ⊆ s'.record.ended) :
    Booked s' w p := by
  cases p with
  | running job => exact hh h
  | panicked job message => exact he h
  | ended job result => exact h.imp fun _ ho => ⟨he ho.1, ho.2⟩
  | leaving job result => exact h.imp fun _ ho => ⟨he ho.1, ho.2⟩
  | replying job result => exact h.imp fun _ ho => ⟨he ho.1, ho.2⟩
  | _ => trivial

theorem WorkerMove.booked {s : State α β} {w : Nat} {p p' : WorkerPhase α β}
    {f : Counters → Counters} (hm : WorkerMove s p f p') (h : Booked s w p) : Booked s w p' := by
  cases hm with
  | panic job message => exact ⟨.panicked message, h, rfl⟩
  | unbusy job result => exact h
  | done job result => exact h
  | _ => trivial

/-- A job that waits in the queue or that a worker has. -/
def UnderWay (s : State α β) (job : Job α) : Prop :=
  job ∈ s.queue ∨ ∃ (w : Nat) (p : WorkerPhase α β) (stage : Stage),
    s.workers[w]? = some p ∧ p.holding? = some (stage, job)

/-- A job asks what its caller asked. -/
def Asks (s : State α β) (job : Job α) : Prop :=
  ∃ k, s.callers[job.caller]? = some k ∧ k.request = job.request

theorem callers_setCaller_of {s : State α β} {i c : Nat} {p : CallerPhase β} {k : Caller α β}
    (h : s.callers[c]? = some k) : ∃ k', (s.setCaller i p).callers[c]? = some k' ∧
      k'.request = k.request ∧ k'.limit = k.limit := by
  simp only [State.setCaller, List.getElem?_modify, h]
  split <;> exact ⟨_, rfl, rfl, rfl⟩

theorem callers_reply_of {s : State α β} {i c : Nat} {result : Except Error β} {k : Caller α β}
    (h : s.callers[c]? = some k) : ∃ k', (s.reply i result).callers[c]? = some k' ∧
      k'.request = k.request ∧ k'.limit = k.limit := by
  simp only [State.reply, List.getElem?_modify, h]
  split
  · refine ⟨_, rfl, ?_⟩
    dsimp only
    split <;> exact ⟨rfl, rfl⟩
  · exact ⟨_, rfl, rfl, rfl⟩

/-- **What a caller asked never changes.** -/
theorem caller_kept {s s' : State α β} {a : Action α β} (he : Effect s a s') {c : Nat}
    {k : Caller α β} (h : s.callers[c]? = some k) : ∃ k', s'.callers[c]? = some k' ∧
      k'.request = k.request ∧ k'.limit = k.limit := by
  cases he with
  | submit request limit =>
    exact ⟨k, by rw [← h]; exact List.getElem?_append_left (List.getElem?_eq_some_iff.mp h).1,
      rfl, rfl⟩
  | caller i k' f p hk hm => exact callers_setCaller_of (s := s.count f) h
  | expire i k' limit hk hp hl => exact callers_setCaller_of h
  | accept i k' hk hp ha hr => exact callers_setCaller_of h
  | reply w job result hw => exact callers_reply_of h
  | _ => exact ⟨k, h, rfl, rfl⟩

theorem Asks.step {s s' : State α β} {a : Action α β} {job : Job α} (h : Asks s job)
    (he : Effect s a s') : Asks s' job := by
  obtain ⟨k, hk, hr⟩ := h
  obtain ⟨k', hk', hr', -⟩ := caller_kept he hk
  exact ⟨k', hk', hr'.trans hr⟩

/-! ## 4. The invariant -/

/-- **Where the callers stand.** -/
structure Standing (s : State α β) : Prop where
  known : ∀ c ∈ s.record.accepted, c < s.callers.length
  once : s.record.accepted.Nodup
  stands : ∀ (c : Nat) (k : Caller α β), s.callers[c]? = some k → Stands s c k
  undelivered : ∀ (c : Nat) (k : Caller α β), s.callers[c]? = some k → k.phase = .waiting →
    c ∈ s.record.endedCallers → 0 < s.held .outgoing c

/-- **What the workers carry.** -/
structure Carried (s : State α β) : Prop where
  asks : ∀ job, UnderWay s job → Asks s job
  booked : ∀ (w : Nat) (p : WorkerPhase α β), s.workers[w]? = some p → Booked s w p

/-- Whose job ended had it accepted. -/
theorem Ledger.accepted_of_ended {s : State α β} (h : Ledger s) {c : Nat}
    (hc : c ∈ s.record.endedCallers) : c ∈ s.record.accepted := by
  have h1 := List.count_pos_iff.mpr hc
  have h2 := h.handed c
  have h3 := h.taken c
  rw [h.order]
  exact List.mem_append_left _ (List.count_pos_iff.mp (by omega))

theorem standing_start (settings : Settings) : Standing (.new settings : State α β) where
  known c h := by cases h
  once := List.nodup_nil
  stands c k h := by cases h
  undelivered c k h := by cases h

theorem carried_start (settings : Settings) : Carried (.new settings : State α β) where
  asks job h := by
    rcases h with h | ⟨w, p, stage, hw, hp⟩
    · cases h
    · simp only [State.new, List.getElem?_replicate] at hw
      split at hw
      · cases hw; cases hp
      · cases hw
  booked w p h := by
    simp only [State.new, List.getElem?_replicate] at h
    split at h
    · cases h; trivial
    · cases h

/-- No move of a caller on its own makes it wait. -/
theorem CallerMove.not_waiting {s : State α β} {p : CallerPhase β} {f : Counters → Counters}
    (hm : CallerMove s p f .waiting) : False := by
  cases hm

/-- A caller that moves, but not to wait, leaves all others where they stand. -/
theorem Standing.setCaller {s : State α β} (h : Standing s) {i : Nat} {k : Caller α β}
    {p : CallerPhase β} (hk : s.callers[i]? = some k) (hp : p ≠ .waiting)
    (hst : Stands s i { k with phase := p }) : Standing (s.setCaller i p) := by
  refine ⟨?_, h.once, ?_, ?_⟩
  · intro c hc
    exact (List.length_modify ..).symm ▸ h.known c hc
  · intro c k' hk'
    rcases State.callers_setCaller hk' with ⟨rfl, k₀, hk₀, rfl⟩ | ⟨-, hk'⟩
    · obtain rfl := Option.some.inj (hk.symm.trans hk₀)
      exact hst
    · exact h.stands c k' hk'
  · intro c k' hk' hp'
    rcases State.callers_setCaller hk' with ⟨-, k₀, -, rfl⟩ | ⟨-, hk'⟩
    · exact absurd hp' hp
    · exact h.undelivered c k' hk' hp'

/-- A caller that waits for a job that ended has its outcome to come, also after one more ended. -/
theorem Standing.undelivered_conclude {s : State α β} (h : Standing s) {w c : Nat} {job : Job α}
    {outcome : Outcome β} {k : Caller α β} (hw : s.workers[w]? = some (.running job))
    (hk : s.callers[c]? = some k) (hp : k.phase = .waiting)
    (hc : c ∈ (s.conclude w job outcome).record.endedCallers) :
    0 < (s.setWorker w (State.afterwards job outcome)).held .outgoing c := by
  have moved := held_setWorker (q := State.afterwards job outcome) hw .outgoing c
  have out : (State.afterwards job outcome).holds .outgoing c = decide (job.caller = c) := by
    cases outcome <;> simp [State.afterwards, WorkerPhase.holds, WorkerPhase.holding?]
  rw [out] at moved
  simp [WorkerPhase.holds, WorkerPhase.holding?] at moved
  by_cases e : job.caller = c
  · simp only [e, if_true] at moved
    omega
  · have hc : c ∈ s.record.endedCallers := by
      simpa [State.conclude, Record.endedCallers, Ne.symm e] using hc
    have := h.undelivered c k hk hp hc
    omega

theorem standing_step {settings : Settings} {s s' : State α β} {a : Action α β}
    (hl : Ledger s) (hs : Sealed settings s) (hc : Carried s) (h : Standing s)
    (he : Effect s a s') : Standing s' := by
  -- a worker that keeps what it holds leaves everything about the callers as it is
  have worker {w : Nat} {p q : WorkerPhase α β} (hw : s.workers[w]? = some p)
      (hq : q.holds .outgoing = p.holds .outgoing) (c : Nat) (hc : 0 < s.held .outgoing c) :
      0 < (s.setWorker w q).held .outgoing c := by
    rw [held_setWorker_eq hw .outgoing c (congrFun hq c)]
    exact hc
  cases he with
  | submit request limit =>
    refine ⟨?_, h.once, ?_, ?_⟩
    · intro c hc
      rw [List.length_append]
      exact Nat.lt_add_right _ (h.known c hc)
    · intro c k hk
      rcases getElem?_concat hk with hk | ⟨rfl, rfl⟩
      · exact h.stands c k hk
      · exact fun hc => Nat.lt_irrefl _ (h.known _ hc)
    · intro c k hk hp
      rcases getElem?_concat hk with hk | ⟨-, rfl⟩
      · exact h.undelivered c k hk hp
      · cases hp
  | caller i k f p hk hm =>
    have hn (hp : k.phase = .counted) : s.isAbandoned = false := by
      cases ha : s.isAbandoned with
      | false => rfl
      | true =>
        have hx := exited_of_isAbandoned (by rw [hs.workers]; exact settings.workers_pos) ha
        have := (hasSender_eq_false.mp (hs.exited 0 hx).2).2 i k hk
        rw [hp] at this
        cases this
    have counted : Standing (s.count f) := ⟨h.known, h.once, h.stands, h.undelivered⟩
    refine counted.setCaller hk ?_ (hm.stands (h.stands i k hk) hn)
    rintro rfl
    exact hm.not_waiting
  | expire i k limit hk hp hl =>
    have refused := h.stands i k hk
    rw [Stands, hp] at refused
    exact h.setCaller hk nofun ⟨refused, hl⟩
  | accept i k hk hp ha hr =>
    have hi : i ∉ s.record.accepted := by
      have := h.stands i k hk
      rw [Stands, hp] at this
      exact this
    refine ⟨?_, ?_, ?_, ?_⟩
    · intro c hc
      refine (List.length_modify ..).symm ▸ ?_
      rcases List.mem_append.mp hc with hc | hc
      · exact h.known c hc
      · exact List.mem_singleton.mp hc ▸ (List.getElem?_eq_some_iff.mp hk).1
    · exact List.nodup_append.mpr ⟨h.once, List.pairwise_singleton _ i,
        fun x hx y hy e => hi (List.mem_singleton.mp hy ▸ e ▸ hx)⟩
    · intro c k' hk'
      rcases State.callers_setCaller hk' with ⟨rfl, k₀, hk₀, rfl⟩ | ⟨hne, hk'⟩
      · exact List.mem_append_right _ (List.mem_singleton_self c)
      · refine (h.stands c k' hk').mono ⟨fun hc => ?_, List.mem_append_left _⟩ fun _ => id
        rcases List.mem_append.mp hc with hc | hc
        · exact hc
        · exact absurd (List.mem_singleton.mp hc) hne
    · intro c k' hk' hp' hc
      rcases State.callers_setCaller hk' with ⟨rfl, k₀, hk₀, rfl⟩ | ⟨-, hk'⟩
      · exact absurd (hl.accepted_of_ended hc) hi
      · exact h.undelivered c k' hk' hp' hc
  | worker w p p' f hw hm =>
    exact ⟨h.known, h.once, h.stands, fun c k hk hp hc =>
      worker hw (funext (hm.holds .outgoing)) c (h.undelivered c k hk hp hc)⟩
  | take w job rest hw hq =>
    exact ⟨h.known, h.once, h.stands, fun c k hk hp hc =>
      worker hw (q := .received job) rfl c (h.undelivered c k hk hp hc)⟩
  | hand w job hw =>
    exact ⟨h.known, h.once, h.stands, fun c k hk hp hc =>
      worker hw (q := .running job) rfl c (h.undelivered c k hk hp hc)⟩
  | finish w job outcome hw =>
    refine ⟨h.known, h.once, ?_, ?_⟩
    · intro c k hk
      exact (h.stands c k hk).mono Iff.rfl (List.subset_append_left _ _)
    · intro c k hk hp hc
      exact h.undelivered_conclude hw hk hp hc
  | reply w job result hw =>
    obtain ⟨o, ho, rfl⟩ := hc.booked w _ hw
    refine ⟨?_, h.once, ?_, ?_⟩
    · intro c hc
      exact (List.length_modify ..).symm ▸ h.known c hc
    · intro c k' hk'
      rcases State.callers_reply hk' with ⟨hk', -⟩ | ⟨rfl, k₀, hk₀, -, rfl⟩
      · exact h.stands c k' hk'
      · exact justified_result ho
    · intro c k' hk' hp hc
      rcases State.callers_reply hk' with ⟨hk', hn⟩ | ⟨rfl, k₀, hk₀, -, rfl⟩
      · have hne : job.caller ≠ c := fun e => by
          have := hn e.symm
          rw [hp] at this
          cases this
        have := h.undelivered c k' hk' hp hc
        have moved := held_setWorker (s := s) (q := .idle) hw .outgoing c
        simp [WorkerPhase.holds, WorkerPhase.holding?, hne] at moved
        exact moved.symm ▸ this
      · cases hp
  | exit w hw hq hs =>
    exact ⟨h.known, h.once, h.stands, fun c k hk hp hc =>
      worker hw (q := .exited) rfl c (h.undelivered c k hk hp hc)⟩
  | close => exact ⟨h.known, h.once, h.stands, h.undelivered⟩
  | flag i hi hf => exact ⟨h.known, h.once, h.stands, h.undelivered⟩
  | again i hi hf => exact ⟨h.known, h.once, h.stands, h.undelivered⟩
  | takeSender i hi => exact ⟨h.known, h.once, h.stands, h.undelivered⟩
  | collect i hi => exact ⟨h.known, h.once, h.stands, h.undelivered⟩
  | join i workers hi hw => exact ⟨h.known, h.once, h.stands, h.undelivered⟩

/-- A job under way after a worker changed its phase was so before, or the new phase brings it. -/
theorem underWay_setWorker {s s' : State α β} {w : Nat} {q : WorkerPhase α β} {job : Job α}
    (hs : s'.workers = (s.setWorker w q).workers) (hq : s'.queue ⊆ s.queue)
    (hb : ∀ (stage : Stage) (j : Job α), q.holding? = some (stage, j) → UnderWay s j)
    (h : UnderWay s' job) : UnderWay s job := by
  rcases h with h | ⟨v, p, stage, hv, hp⟩
  · exact .inl (hq h)
  · rw [hs] at hv
    rcases State.workers_setWorker hv with ⟨-, rfl⟩ | ⟨-, hv⟩
    · exact hb stage job hp
    · exact .inr ⟨v, p, stage, hv, hp⟩

/-- A job under way after a step was under way before, or asks what its caller asks. -/
theorem underWay_step {s s' : State α β} {a : Action α β} {job : Job α} (he : Effect s a s')
    (h : UnderWay s' job) : UnderWay s job ∨ Asks s job := by
  cases he with
  | accept i k hk hp ha hr =>
    rcases h with h | h
    · rcases List.mem_append.mp h with h | h
      · exact .inl (.inl h)
      · obtain rfl := List.mem_singleton.mp h
        exact .inr ⟨k, hk, rfl⟩
    · exact .inl (.inr h)
  | worker w p p' f hw hm =>
    exact .inl (underWay_setWorker (q := p') rfl (fun _ => id)
      (fun stage j hj => .inr ⟨w, p, stage, hw, hm.holding ▸ hj⟩) h)
  | take w j rest hw hq =>
    have same : (s.take w j rest).workers = (s.setWorker w (.received j)).workers := rfl
    have shorter : (s.take w j rest).queue ⊆ s.queue := by
      rw [hq]
      exact List.subset_cons_self j rest
    refine .inl (underWay_setWorker same shorter (fun stage j' hj => ?_) h)
    cases hj
    exact .inl (hq ▸ List.mem_cons_self)
  | hand w j hw =>
    refine .inl (underWay_setWorker (q := .running j) rfl (fun _ => id) (fun stage j' hj => ?_) h)
    cases hj
    exact .inr ⟨w, _, .upcoming, hw, rfl⟩
  | finish w j outcome hw =>
    refine .inl (underWay_setWorker (q := State.afterwards j outcome) rfl (fun _ => id)
      (fun stage j' hj => ?_) h)
    have e : j' = j := by cases outcome <;> cases hj <;> rfl
    exact e ▸ .inr ⟨w, _, .running, hw, rfl⟩
  | reply w j result hw =>
    exact .inl (underWay_setWorker (q := .idle) rfl (fun _ => id) nofun h)
  | exit w hw hq hs =>
    exact .inl (underWay_setWorker (q := .exited) rfl (fun _ => id) nofun h)
  | _ => exact .inl h

/-- The record only grows. -/
theorem record_grows {s s' : State α β} {a : Action α β} (he : Effect s a s') :
    s.record.accepted <+: s'.record.accepted ∧ s.record.taken <+: s'.record.taken ∧
      s.record.handed <+: s'.record.handed ∧ s.record.ended <+: s'.record.ended := by
  have same {γ : Type} (l : List γ) : l <+: l := List.prefix_rfl
  cases he with
  | accept i k hk hp ha hr => exact ⟨List.prefix_append _ _, same _, same _, same _⟩
  | take w job rest hw hq => exact ⟨same _, List.prefix_append _ _, same _, same _⟩
  | hand w job hw => exact ⟨same _, same _, List.prefix_append _ _, same _⟩
  | finish w job outcome hw => exact ⟨same _, same _, same _, List.prefix_append _ _⟩
  | _ => exact ⟨same _, same _, same _, same _⟩

/-- Only the end of a handler ends a job. -/
theorem ended_kept {s s' : State α β} {a : Action α β} (he : Effect s a s')
    (ha : ∀ (w : Nat) (outcome : Outcome β), a ≠ .finish w outcome) :
    s'.record.ended = s.record.ended := by
  cases he with
  | finish w job outcome hw => exact absurd rfl (ha w outcome)
  | _ => rfl

/-- Only the end of its handler moves a worker whose handler runs. -/
theorem running_kept {s s' : State α β} {a : Action α β} {w : Nat} {job : Job α}
    (he : Effect s a s') (hw : s.workers[w]? = some (.running job))
    (ha : ∀ outcome : Outcome β, a ≠ .finish w outcome) :
    s'.workers[w]? = some (.running job) := by
  have other {v : Nat} {p q : WorkerPhase α β} (hv : s.workers[v]? = some p)
      (hp : p ≠ .running job) : (s.setWorker v q).workers[w]? = some (.running job) := by
    rw [State.workers_setWorker_ne fun e => hp ?_, hw]
    exact Option.some.inj (hv.symm.trans (e ▸ hw))
  cases he with
  | worker v p q f hv hm => exact other (q := q) hv fun e => by rw [e] at hm; cases hm
  | take v j rest hv hq => exact other (q := .received j) hv nofun
  | hand v j hv => exact other (q := .running j) hv nofun
  | finish v j outcome hv =>
    have hne : w ≠ v := fun e => ha outcome (e ▸ rfl)
    exact (State.workers_setWorker_ne (q := State.afterwards j outcome) hne).trans hw
  | reply v j result hv => exact other (q := .idle) hv nofun
  | exit v hv hq hs => exact other (q := .exited) hv nofun
  | _ => exact hw

/-- What the record said of the workers before a step, it says after it. -/
theorem Booked.step {s s' : State α β} {a : Action α β} {w : Nat} {p : WorkerPhase α β}
    (h : Booked s w p) (he : Effect s a s') : Booked s' w p :=
  h.mono (record_grows he).2.2.1.subset (record_grows he).2.2.2.subset

theorem carried_step {s s' : State α β} {a : Action α β} (h : Carried s)
    (he : Effect s a s') : Carried s' := by
  refine ⟨fun job hj => ?_, ?_⟩
  · rcases underWay_step he hj with hj | hj
    · exact (h.asks job hj).step he
    · exact hj.step he
  -- the worker that moved, and all others
  have moved {w : Nat} {q : WorkerPhase α β} (hs : s'.workers = (s.setWorker w q).workers)
      (hq : Booked s' w q) (v : Nat) (p : WorkerPhase α β) (hv : s'.workers[v]? = some p) :
      Booked s' v p := by
    rw [hs] at hv
    rcases State.workers_setWorker hv with ⟨rfl, rfl⟩ | ⟨-, hv⟩
    · exact hq
    · exact (h.booked v p hv).step he
  have stay (hs : s'.workers = s.workers) (v : Nat) (p : WorkerPhase α β)
      (hv : s'.workers[v]? = some p) : Booked s' v p := (h.booked v p (hs ▸ hv)).step he
  cases he with
  | worker w p p' f hw hm => exact moved (q := p') rfl (hm.booked (h.booked w p hw))
  | take w job rest hw hq => exact moved (q := .received job) rfl trivial
  | hand w job hw =>
    exact moved (q := .running job) rfl (List.mem_append_right _ (List.mem_singleton_self _))
  | finish w job outcome hw =>
    have he := List.mem_append_right s.record.ended (List.mem_singleton_self (job.caller, outcome))
    refine moved (q := State.afterwards job outcome) rfl ?_
    cases outcome with
    | returned value => exact ⟨.returned value, he, rfl⟩
    | panicked message => exact he
  | reply w job result hw => exact moved (q := .idle) rfl trivial
  | exit w hw hq hs => exact moved (q := .exited) rfl trivial
  | _ => exact stay rfl

/-- **What holds of all jobs in every reachable state.** -/
theorem standing_of_reachable {settings : Settings} {s : State α β} (h : s.Reachable settings) :
    Standing s ∧ Carried s :=
  reachable_induction (P := fun s => Standing s ∧ Carried s)
    ⟨standing_start settings, carried_start settings⟩
    (fun hr ih he => ⟨standing_step (ledger_of_reachable hr) (sealed_of_reachable hr) ih.2 ih.1 he,
      carried_step ih.2 he⟩) h

end ScriptGateway.Pool
