import ScriptGateway.Proofs.Pool.Delivery
import Mathlib.Data.List.Nodup
/-!
# Exactly-once execution

The pool hands every accepted job to the handler exactly once, in order of acceptance, and tells
each caller the truth, in every order in which callers, workers, timeouts and shutdowns interleave.

* `Orderly`: what holds of the jobs and answers after any number of steps.
* `State.isShutDown`: `shutdown` returned to somebody; who submits from then on is refused.
* `Served`: what becomes of an accepted job in the end.
* `exactly_once`: all of it, for every schedule; the last two points for every fair one.
-/

namespace ScriptGateway.Pool

variable {α β : Type}

/-! ## 1. After any number of steps -/

/-- **The jobs and the answers of a pool.** -/
structure Orderly (s : State α β) : Prop where
  /-- Jobs are taken in the order in which they were accepted. -/
  order : s.record.accepted = s.record.taken ++ s.queue.map Job.caller
  accepted_once : s.record.accepted.Nodup
  handed_once : s.record.handedCallers.Nodup
  ended_once : s.record.endedCallers.Nodup
  /-- No job is lost. -/
  place : ∀ c ∈ s.record.accepted,
    c ∈ s.queue.map Job.caller ∨ (∃ w, HasJob s w c) ∨ c ∈ s.record.endedCallers
  handed_taken : s.record.handedCallers ⊆ s.record.taken
  ended_handed : s.record.endedCallers ⊆ s.record.handedCallers
  /-- What is handed over is what the caller asked. -/
  asks : ∀ job, UnderWay s job → Asks s job
  /-- No answer is wrong; above all nobody is told that its channel closed. -/
  answers : ∀ (c : Nat) (k : Caller α β) (result : Except Error β), s.callers[c]? = some k →
    k.phase = .answered result → Justified s c k result

/-- A list whose elements occur as often as in a list without duplicates, or less, has none. -/
theorem nodup_of_count_le {l l' : List Nat} (h : l'.Nodup) (hc : ∀ c, l.count c ≤ l'.count c) :
    l.Nodup :=
  List.nodup_iff_count_le_one.mpr fun c =>
    Nat.le_trans (hc c) (List.nodup_iff_count_le_one.mp h c)

theorem subset_of_count_le {l l' : List Nat} (hc : ∀ c, l.count c ≤ l'.count c) : l ⊆ l' :=
  fun c h => List.count_pos_iff.mp (Nat.lt_of_lt_of_le (List.count_pos_iff.mpr h) (hc c))

theorem Ledger.handed_le {s : State α β} (h : Ledger s) (c : Nat) :
    s.record.handedCallers.count c ≤ s.record.taken.count c := by
  rw [h.taken]
  exact Nat.le_add_right _ _

theorem Ledger.ended_le {s : State α β} (h : Ledger s) (c : Nat) :
    s.record.endedCallers.count c ≤ s.record.handedCallers.count c := by
  rw [h.handed]
  exact Nat.le_add_right _ _

/-- An accepted job is in the queue, with a worker, or ended. -/
theorem Ledger.place {s : State α β} (h : Ledger s) {c : Nat} (hc : c ∈ s.record.accepted) :
    c ∈ s.queue.map Job.caller ∨ (∃ w, HasJob s w c) ∨ c ∈ s.record.endedCallers := by
  rw [h.order] at hc
  rcases List.mem_append.mp hc with ht | hq
  · have count := List.count_pos_iff.mpr ht
    rw [h.taken, h.handed] at count
    by_cases hu : 0 < s.held .upcoming c
    · exact .inr (.inl (hasJob_of_held hu))
    by_cases hr : 0 < s.held .running c
    · exact .inr (.inl (hasJob_of_held hr))
    exact .inr (.inr (List.count_pos_iff.mp (by omega)))
  · exact .inl hq

theorem orderly_of_reachable {settings : Settings} {s : State α β} (h : s.Reachable settings) :
    Orderly s := by
  have ledger := ledger_of_reachable h
  obtain ⟨standing, carried⟩ := standing_of_reachable h
  have taken : s.record.taken.Nodup := by
    have := standing.once
    rw [ledger.order] at this
    exact (List.nodup_append.mp this).1
  have handed := nodup_of_count_le taken ledger.handed_le
  exact
    { order := ledger.order
      accepted_once := standing.once
      handed_once := handed
      ended_once := nodup_of_count_le handed ledger.ended_le
      place := fun _ hc => ledger.place hc
      handed_taken := subset_of_count_le ledger.handed_le
      ended_handed := subset_of_count_le ledger.ended_le
      asks := carried.asks
      answers := fun c k result hk hp => by
        have := standing.stands c k hk
        rwa [Stands, hp] at this }

/-- A refused caller has no job that was handed over. -/
theorem Orderly.refused {s : State α β} (h : Orderly s) {c : Nat} {e : Error}
    (ha : s.answer? c = some (.error e)) (he : (e.isQueueFull || e.isShutdown) = true) :
    c ∉ s.record.handedCallers := by
  obtain ⟨k, hk, hp⟩ := answer?_eq_some.mp ha
  have justified := h.answers c k _ hk hp
  have absent : c ∉ s.record.accepted := by
    cases e with
    | queueFull capacity pending => exact justified
    | shutdown => exact justified
    | _ => cases he
  exact fun hc => absent (h.order ▸ List.mem_append_left _ (h.handed_taken hc))

/-! ## 2. After a shutdown -/

/-- Whether `shutdown` returned to a closer. -/
def CloserPhase.returned : CloserPhase → Bool
  | arrived => false
  | first => false
  | _ => true

/-- Whether `shutdown` returned to somebody. -/
def State.isShutDown (s : State α β) : Bool :=
  s.closers.any CloserPhase.returned

theorem Sealed.flagged_of_isShutDown {settings : Settings} {s : State α β}
    (h : Sealed settings s) (hs : s.isShutDown = true) : s.flagged = true := by
  obtain ⟨p, hp, hr⟩ := List.any_eq_true.mp hs
  obtain ⟨i, hi⟩ := List.mem_iff_getElem?.mp hp
  exact h.closers i p hi fun e => by rw [e] at hr; cases hr

/-- Whoever arrives from a certain number on is refused with its first step. -/
structure ShutOut (first : Nat) (s : State α β) : Prop where
  flagged : s.flagged = true
  late : ∀ (c : Nat) (k : Caller α β), first ≤ c → s.callers[c]? = some k →
    k.phase = .arrived ∨ k.phase = .answered (.error .shutdown)

theorem flagged_step {s s' : State α β} {a : Action α β} (he : Effect s a s')
    (h : s.flagged = true) : s'.flagged = true := by
  cases he with
  | flag i hi hf => rfl
  | _ => exact h

/-- **Who arrives once the flag is up goes no further than the flag.** -/
theorem ShutOut.step {first : Nat} {s s' : State α β} {a : Action α β} (h : ShutOut first s)
    (he : Effect s a s') : ShutOut first s' := by
  refine ⟨flagged_step he h.flagged, fun c k hc hk => ?_⟩
  cases he with
  | submit request limit =>
    rcases getElem?_concat hk with hk | ⟨-, rfl⟩
    · exact h.late c k hc hk
    · exact .inl rfl
  | caller i k₀ f p hk₀ hm =>
    rcases State.callers_setCaller hk with ⟨rfl, k₁, hk₁, rfl⟩ | ⟨-, hk⟩
    · obtain ⟨request, limit, phase⟩ := k₀
      rcases h.late c _ hc hk₀ with hp | hp
      · obtain rfl : phase = .arrived := hp
        cases hm with
        | refused hf => exact .inr rfl
        | passed hf => rw [h.flagged] at hf; cases hf
      · obtain rfl : phase = .answered (.error .shutdown) := hp
        cases hm
    · exact h.late c k hc hk
  | expire i k₀ limit hk₀ hp₀ hl =>
    rcases State.callers_setCaller hk with ⟨rfl, k₁, hk₁, rfl⟩ | ⟨-, hk⟩
    · rcases h.late c _ hc hk₀ with hp | hp <;> cases hp₀.symm.trans hp
    · exact h.late c k hc hk
  | accept i k₀ hk₀ hp₀ ha hr =>
    rcases State.callers_setCaller hk with ⟨rfl, k₁, hk₁, rfl⟩ | ⟨-, hk⟩
    · rcases h.late c _ hc hk₀ with hp | hp <;> cases hp₀.symm.trans hp
    · exact h.late c k hc hk
  | reply w job result hw =>
    rcases State.callers_reply hk with ⟨hk, -⟩ | ⟨rfl, k₁, hk₁, hp₁, rfl⟩
    · exact h.late c k hc hk
    · rcases h.late _ _ hc hk₁ with hp | hp <;> cases hp₁.symm.trans hp
  | _ => exact h.late c k hc hk

/-- Nobody has arrived yet that arrives later. -/
theorem shutOut_now {s : State α β} (h : s.flagged = true) : ShutOut s.callers.length s where
  flagged := h
  late _ _ hc hk := absurd (List.getElem?_eq_some_iff.mp hk).1 (Nat.not_lt.mpr hc)

/-! ## 3. In the end -/

/-- **What becomes of an accepted job**: it was handed over exactly once, to one worker, and ended
with one outcome; its caller has that outcome, or gave up by then and has its own timeout. -/
def Served (schedule : Nat → Action α β) (n : Nat) (s : State α β) (c : Nat) : Prop :=
  ∃ (w : Nat) (o : Outcome β), s.record.handedCallers.count c = 1 ∧
    (∀ v, (c, v) ∈ s.record.handed ↔ v = w) ∧ (∀ o', (c, o') ∈ s.record.ended ↔ o' = o) ∧
    (s.answer? c = some o.result ∨
      (∃ l < n, schedule l = .expire c) ∧
        ∃ k limit, s.callers[c]? = some k ∧ k.limit = some limit ∧
          s.answer? c = some (.error (.timeout limit)))

/-- In a list of pairs whose first parts differ, each first part has one second part. -/
theorem mem_iff_of_nodup {γ : Type} {l : List (Nat × γ)} (h : (l.map Prod.fst).Nodup) {c : Nat}
    {x : γ} (hx : (c, x) ∈ l) (y : γ) : (c, y) ∈ l ↔ y = x := by
  refine ⟨fun hy => ?_, fun e => e ▸ hx⟩
  have same := List.inj_on_of_nodup_map h hy hx rfl
  exact (Prod.mk.inj same).2

/-- A job that ended, and whose caller was answered, is served. -/
theorem served_of_ended {settings : Settings} {schedule : Nat → Action α β} {n c : Nat}
    {result : Except Error β}
    (he : c ∈ (State.after settings schedule n).record.endedCallers)
    (ha : (State.after settings schedule n).answer? c = some result) :
    Served schedule n (State.after settings schedule n) c := by
  have orderly := orderly_of_reachable (reachable_after settings schedule n)
  have hh := orderly.ended_handed he
  obtain ⟨⟨_, o⟩, ho, rfl⟩ := List.mem_map.mp he
  obtain ⟨⟨_, w⟩, hw, rfl⟩ := List.mem_map.mp hh
  have accepted := orderly.order ▸ List.mem_append_left (List.map Job.caller
    (State.after settings schedule n).queue) (orderly.handed_taken hh)
  obtain ⟨k, hk, hp⟩ := answer?_eq_some.mp ha
  have justified := orderly.answers _ k result hk hp
  have outcome := mem_iff_of_nodup orderly.ended_once ho
  refine ⟨w, o, List.count_eq_one_of_mem orderly.handed_once hh,
    mem_iff_of_nodup orderly.handed_once hw, outcome, ?_⟩
  cases result with
  | ok value =>
    obtain rfl := (outcome _).mp justified
    exact .inl ha
  | error e =>
    cases e with
    | workerPanic message =>
      obtain rfl := (outcome _).mp justified
      exact .inl ha
    | timeout limit =>
      refine .inr ⟨gaveUp_after hk (by rw [hp]; rfl), k, limit, hk, justified.2, ha⟩
    | queueFull capacity pending => exact absurd accepted justified
    | shutdown => exact absurd accepted justified
    | channelClosed => exact justified.elim
    | spawn message => exact justified.elim

/-- **Exactly-once execution.** The steps of callers, workers, timeouts and shutdowns come in the
order of any schedule; only the last two points need that nobody is passed over for ever. -/
structure ExactlyOnce (settings : Settings) (schedule : Nat → Action α β) : Prop where
  orderly : ∀ n, Orderly (State.after settings schedule n)
  final : ∀ (n m c : Nat) (result : Except Error β), n ≤ m →
    (State.after settings schedule n).answer? c = some result →
    (State.after settings schedule m).answer? c = some result
  /-- Who is told that the queue is full or the pool shut down has no job that is ever run. -/
  refused : ∀ (n m c : Nat) (e : Error), n ≤ m →
    (State.after settings schedule n).answer? c = some (.error e) →
    (e.isQueueFull || e.isShutdown) = true →
    c ∉ (State.after settings schedule m).record.handedCallers
  /-- Who submits after a shutdown returned is told so. -/
  late : ∀ (n m c : Nat) (result : Except Error β), n ≤ m →
    (State.after settings schedule n).isShutDown = true →
    (State.after settings schedule n).callers.length ≤ c →
    (State.after settings schedule m).answer? c = some result → result = .error .shutdown
  answered : Fair settings schedule → ∀ n, ∀ c < (State.after settings schedule n).callers.length,
    ∃ m ≥ n, ∃ result, ∀ l ≥ m, (State.after settings schedule l).answer? c = some result
  served : Fair settings schedule → ∀ n, ∀ c ∈ (State.after settings schedule n).record.accepted,
    ∃ m ≥ n, ∀ l ≥ m, Served schedule l (State.after settings schedule l) c

theorem exactly_once (settings : Settings) (schedule : Nat → Action α β) :
    ExactlyOnce settings schedule where
  orderly n := orderly_of_reachable (reachable_after settings schedule n)
  final _ _ _ _ hnm h := answer_after hnm h
  refused n m c e hnm ha he :=
    (orderly_of_reachable (reachable_after settings schedule m)).refused (answer_after hnm ha) he
  late n m c result hnm hs hc ha := by
    have flagged := (sealed_after settings schedule n).flagged_of_isShutDown hs
    have out := after_induction (P := ShutOut _) hnm (shutOut_now flagged) fun _ ih he => ih.step he
    obtain ⟨k, hk, hp⟩ := answer?_eq_some.mp ha
    rcases out.late c k hc hk with h | h
    · cases hp.symm.trans h
    · exact CallerPhase.answered.inj (hp.symm.trans h)
  answered fair n c hc := by
    obtain ⟨m, hm, result, h⟩ := fair.answers (List.getElem?_eq_getElem hc)
    exact ⟨m, hm, result, fun l hl => answer_after hl h⟩
  served fair n c hc := by
    obtain ⟨m, hm, settled⟩ := fair.settles hc
    have known := (standing_after settings schedule n).1.known c hc
    obtain ⟨l, hl, result, ha⟩ := fair.answers (n := m)
      (List.getElem?_eq_getElem (Nat.lt_of_lt_of_le known (callers_after settings schedule hm)))
    exact ⟨l, by omega, fun k hk =>
      served_of_ended (settled.after (by omega)).ended (answer_after hk ha)⟩

/-- A worker, and a queue with one place. -/
def oneWorker : Settings :=
  .withCapacity "one" 1 1

/-- A caller submits a job, the worker carries it out, and then there is nothing left to do. -/
def oneJob : Nat → Action Unit Nat := fun n =>
  ([.worker 0, .submit () none, .caller 0, .caller 0, .caller 0, .caller 0, .worker 0, .worker 0,
    .worker 0, .finish 0 (.returned 7), .worker 0, .worker 0, .worker 0, .worker 0] :
      List (Action Unit Nat)).getD n (.expire 0)

/-- The pool after the job: the worker listens, and the caller has its answer. -/
def oneJobDone : State Unit Nat :=
  { (State.new oneWorker : State Unit Nat) with
    counters := { Counters.zero with executed := 1 }
    callers := [{ request := (), limit := none, phase := .answered (.ok 7) }]
    workers := [.listening]
    record := { accepted := [0], taken := [0], handed := [(0, 0)], ended := [(0, .returned 7)] } }

theorem after_oneJob {n : Nat} (h : 14 ≤ n) : State.after oneWorker oneJob n = oneJobDone := by
  induction n, h using Nat.le_induction with
  | base => rfl
  | succ n hn ih =>
    have idle : oneJob n = .expire 0 := by
      rw [oneJob, List.getD_eq_getElem?_getD, List.getElem?_eq_none hn]
      rfl
    rw [State.after, ih, idle]
    rfl

theorem not_ready_oneJobDone (x : Actor) : ¬ oneJobDone.Ready x := by
  rintro ⟨a, ha, h⟩
  cases a with
  | submit request limit => cases ha
  | caller i =>
    cases i with
    | zero => cases h
    | succ i => cases h
  | expire i => cases ha
  | worker w =>
    cases w with
    | zero => cases h
    | succ w => cases h
  | finish w outcome =>
    cases w with
    | zero => cases h
    | succ w => cases h
  | close => cases ha
  | closer i => cases ha

theorem fair_oneJob : Fair oneWorker oneJob := by
  intro x n ready
  have := ready (n + 14) (Nat.le_add_right n 14)
  rw [after_oneJob (Nat.le_add_left 14 n)] at this
  exact absurd this (not_ready_oneJobDone x)

/-- The job that is queued after six steps is served. -/
theorem exactly_once_oneJob : Fair oneWorker oneJob ∧
    ∃ m ≥ 6, ∀ l ≥ m, Served oneJob l (State.after oneWorker oneJob l) 0 :=
  ⟨fair_oneJob, (exactly_once oneWorker oneJob).served fair_oneJob 6 0 List.mem_cons_self⟩

end ScriptGateway.Pool
