import ScriptGateway.Proofs.Pool.Counters
import ScriptGateway.Proofs.Pool.ExactlyOnce
import ScriptGateway.Proofs.Steps
/-!
# The counters of a pool

What anyone reads off the counters, at any moment and whatever the order of steps was.

* `queue_length_le`: the queue has no more jobs than places, but for one that a worker waits for.
* `pending_step`, `busy_step`: a step moves these two by one up or down, and lowers none that is
  at zero.
* `Accounting`, `accounting`: what the counters say in every reachable state.
-/

namespace ScriptGateway.Pool

variable {α β : Type}

/-! ## 1. Counting actors -/

namespace State

/-- How many callers stand in certain phases. -/
def callersIn (s : State α β) (q : CallerPhase β → Bool) : Nat :=
  s.callers.countP fun k => q k.phase

/-- How many workers stand in certain phases. -/
def workersIn (s : State α β) (q : WorkerPhase α β → Bool) : Nat :=
  s.workers.countP q

end State

namespace Account

/-- What an account holds of the tokens of a state. -/
theorem held_tokens (A : Account α β) (s : State α β) : A.held s.tokens =
    s.callersIn A.caller + s.workersIn A.worker + (if A.queued then s.queue.length else 0) := by
  have callers : (s.callers.map Caller.phase).countP A.caller = s.callersIn A.caller :=
    List.countP_map
  unfold held State.tokens State.workersIn
  simp only [callers]

/-- What is booked in an account that is kept, by where the actors stand. -/
theorem booked_eq {A : Account α β} (hk : A.Kept) {settings : Settings} {s : State α β}
    (h : s.Reachable settings) : A.booked s.counters s.record =
      A.settled s.counters + (s.callersIn A.caller + s.workersIn A.worker
        + (if A.queued then s.queue.length else 0)) := by
  rw [← held_tokens]
  exact balanced_of_reachable hk h

end Account

theorem callersIn_never (s : State α β) : s.callersIn (fun _ => false) = 0 :=
  congrFun List.countP_false _

theorem workersIn_never (s : State α β) : s.workersIn (fun _ => false) = 0 :=
  congrFun List.countP_false _

theorem callersIn_pos {s : State α β} {i : Nat} {k : Caller α β} {q : CallerPhase β → Bool}
    (hk : s.callers[i]? = some k) (h : q k.phase = true) : 0 < s.callersIn q :=
  List.countP_pos_iff.mpr ⟨k, List.mem_of_getElem? hk, h⟩

theorem workersIn_pos {s : State α β} {w : Nat} {p : WorkerPhase α β} {q : WorkerPhase α β → Bool}
    (hw : s.workers[w]? = some p) (h : q p = true) : 0 < s.workersIn q :=
  List.countP_pos_iff.mpr ⟨p, List.mem_of_getElem? hw, h⟩

theorem workersIn_setWorker {s : State α β} {w : Nat} {p : WorkerPhase α β}
    (hw : s.workers[w]? = some p) (p' : WorkerPhase α β) (q : WorkerPhase α β → Bool) :
    (s.setWorker w p').workersIn q + (if q p then 1 else 0) =
      s.workersIn q + (if q p' then 1 else 0) :=
  countP_set_add q hw

/-- Workers in phases that exclude each other are different workers. -/
theorem workersIn_add_le {q r : WorkerPhase α β → Bool} (h : ∀ p, q p = true → r p = false)
    (s : State α β) : s.workersIn q + s.workersIn r ≤ s.workers.length := by
  have others : s.workersIn r ≤ s.workers.countP fun p => !q p := by
    refine List.countP_mono_left fun p _ hr => ?_
    cases hq : q p with
    | true => exact absurd hr (by rw [h p hq]; decide)
    | false => rfl
  have all := List.length_eq_countP_add_countP q (l := s.workers)
  simp only [Bool.not_eq_true, Bool.decide_eq_false] at all
  unfold State.workersIn at others ⊢
  omega

/-! ## 2. The places of the queue -/

/-- A queue with room gets no longer than its places, unless a worker waits for the job. -/
theorem lt_of_hasRoom {s : State α β} (h : s.hasRoom = true) :
    s.queue.length < s.settings.capacity + s.workersIn WorkerPhase.isListening := by
  unfold State.hasRoom at h
  split at h
  · obtain ⟨empty, waits⟩ := Bool.and_eq_true_iff.mp h
    obtain ⟨p, hp, listens⟩ := List.any_eq_true.mp waits
    have one : 0 < s.workersIn WorkerPhase.isListening :=
      List.countP_pos_iff.mpr ⟨p, hp, listens⟩
    rw [List.isEmpty_iff.mp empty]
    exact Nat.lt_of_lt_of_le one (Nat.le_add_left _ _)
  · have := of_decide_eq_true h
    omega

/-- **The queue has no more jobs than places**, but for one that a worker already waits for. -/
theorem queue_length_le {settings : Settings} {s : State α β} (h : s.Reachable settings) :
    s.queue.length ≤ settings.capacity + s.workersIn WorkerPhase.isListening := by
  refine reachable_induction (P := fun s : State α β =>
    s.queue.length ≤ settings.capacity + s.workersIn WorkerPhase.isListening)
    (Nat.zero_le _) ?_ h
  intro s s' a hr ih he
  cases he with
  | accept i k hk hp ha hroom =>
    have room := lt_of_hasRoom hroom
    rw [(sealed_of_reachable hr).sameSettings] at room
    show (s.queue ++ [_]).length ≤ settings.capacity + s.workersIn WorkerPhase.isListening
    rw [List.length_append]
    exact room
  | worker w p p' f hw hm =>
    have moved := workersIn_setWorker hw p' WorkerPhase.isListening
    show s.queue.length ≤ settings.capacity + (s.setWorker w p').workersIn WorkerPhase.isListening
    cases hm <;> simp [WorkerPhase.isListening] at moved <;> omega
  | take w job rest hw hq =>
    have moved := workersIn_setWorker hw (.received job) WorkerPhase.isListening
    have before : s.queue.length = rest.length + 1 := congrArg List.length hq
    show rest.length ≤
      settings.capacity + (s.setWorker w (.received job)).workersIn WorkerPhase.isListening
    simp [WorkerPhase.isListening] at moved
    omega
  | hand w job hw =>
    have moved := workersIn_setWorker hw (.running job) WorkerPhase.isListening
    exact (Nat.add_right_cancel moved) ▸ ih
  | finish w job outcome hw =>
    have moved := workersIn_setWorker hw (State.afterwards job outcome) WorkerPhase.isListening
    have same : (State.afterwards job outcome : WorkerPhase α β).isListening = false := by
      cases outcome <;> rfl
    rw [same] at moved
    exact (Nat.add_right_cancel moved) ▸ ih
  | reply w job result hw =>
    have moved := workersIn_setWorker hw .idle WorkerPhase.isListening
    exact (Nat.add_right_cancel moved) ▸ ih
  | exit w hw hq hs =>
    show s.queue.length ≤ _
    rw [hq]
    exact Nat.zero_le _
  | _ => exact ih

/-! ## 3. Up and down by one -/

namespace State

/-- Whether an action is the step of an actor that stands in certain phases. -/
def isStepOf (s : State α β) (caller : CallerPhase β → Bool) (worker : WorkerPhase α β → Bool) :
    Action α β → Bool
  | .caller i => (s.callers[i]?).any fun k => caller k.phase
  | .worker w => (s.workers[w]?).any worker
  | _ => false

/-- Whether an action counts one more job as pending. -/
def raisesPending (s : State α β) : Action α β → Bool :=
  s.isStepOf CallerPhase.raisesPending fun _ => false

/-- Whether an action counts one job less as pending. -/
def lowersPending (s : State α β) : Action α β → Bool :=
  s.isStepOf CallerPhase.lowersPending WorkerPhase.isReceiving

/-- Whether an action counts one more worker as busy. -/
def raisesBusy (s : State α β) : Action α β → Bool :=
  s.isStepOf (fun _ => false) WorkerPhase.raisesBusy

/-- Whether an action counts one worker less as busy. -/
def lowersBusy (s : State α β) : Action α β → Bool :=
  s.isStepOf (fun _ => false) WorkerPhase.lowersBusy

theorem isStepOf_caller {s : State α β} {i : Nat} {k : Caller α β} (hk : s.callers[i]? = some k)
    (caller : CallerPhase β → Bool) (worker : WorkerPhase α β → Bool) :
    s.isStepOf caller worker (.caller i) = caller k.phase := by
  show (s.callers[i]?).any _ = _
  rw [hk]
  rfl

theorem isStepOf_worker {s : State α β} {w : Nat} {p : WorkerPhase α β}
    (hw : s.workers[w]? = some p) (caller : CallerPhase β → Bool)
    (worker : WorkerPhase α β → Bool) : s.isStepOf caller worker (.worker w) = worker p := by
  show (s.workers[w]?).any _ = _
  rw [hw]
  rfl

end State

section Balances

variable {settings : Settings} {s : State α β}

theorem pending_eq (h : s.Reachable settings) : s.counters.pending =
    s.queue.length + s.callersIn CallerPhase.isSubmitting
      + s.workersIn WorkerPhase.isReceiving := by
  have booked := Account.booked_eq kept_pendingJobs h
  simp only [pendingJobs, if_true] at booked
  omega

theorem busy_eq (h : s.Reachable settings) :
    s.counters.busy = s.workersIn WorkerPhase.isBusy := by
  have booked := Account.booked_eq kept_busyWorkers h
  simp only [busyWorkers, callersIn_never, Bool.false_eq_true, if_false] at booked
  omega

/-- **A step moves the pending jobs by one at most**, and takes none away that is not there. -/
theorem pending_step (h : s.Reachable settings) {a : Action α β} {s' : State α β}
    (hs : s.step? a = some s') :
    s'.counters.pending + (if s.lowersPending a then 1 else 0) =
      s.counters.pending + (if s.raisesPending a then 1 else 0) := by
  have pending := pending_eq h
  unfold State.lowersPending State.raisesPending
  cases effect_of_step hs with
  | caller i k f p hk hm =>
    have there (hq : k.phase.isSubmitting = true) := callersIn_pos hk hq
    rw [State.isStepOf_caller hk, State.isStepOf_caller hk]
    show (f s.counters).pending + _ = _
    generalize k.phase = q at there hm
    cases hm with
    | uncounted => exact Nat.sub_add_cancel (by have := there rfl; omega)
    | dropped => exact Nat.sub_add_cancel (by have := there rfl; omega)
    | _ => rfl
  | accept i k hk hp ha hr =>
    rw [State.isStepOf_caller hk, State.isStepOf_caller hk, hp]
    rfl
  | worker w p p' f hw hm =>
    have there (hq : p.isReceiving = true) := workersIn_pos hw hq
    rw [State.isStepOf_worker hw, State.isStepOf_worker hw]
    show (f s.counters).pending + _ = _
    cases hm with
    | unpend job => exact Nat.sub_add_cancel (by have := there rfl; omega)
    | _ => rfl
  | take w job rest hw hq =>
    rw [State.isStepOf_worker hw, State.isStepOf_worker hw]
    rfl
  | hand w job hw =>
    rw [State.isStepOf_worker hw, State.isStepOf_worker hw]
    rfl
  | reply w job result hw =>
    rw [State.isStepOf_worker hw, State.isStepOf_worker hw]
    rfl
  | exit w hw hq hs =>
    rw [State.isStepOf_worker hw, State.isStepOf_worker hw]
    rfl
  | _ => rfl

/-- **A step moves the busy workers by one at most**, and takes none away that is not there. -/
theorem busy_step (h : s.Reachable settings) {a : Action α β} {s' : State α β}
    (hs : s.step? a = some s') :
    s'.counters.busy + (if s.lowersBusy a then 1 else 0) =
      s.counters.busy + (if s.raisesBusy a then 1 else 0) := by
  have busy := busy_eq h
  unfold State.lowersBusy State.raisesBusy
  cases effect_of_step hs with
  | caller i k f p hk hm =>
    rw [State.isStepOf_caller hk, State.isStepOf_caller hk]
    show (f s.counters).busy + _ = _
    generalize k.phase = q at hm
    cases hm <;> rfl
  | accept i k hk hp ha hr =>
    rw [State.isStepOf_caller hk, State.isStepOf_caller hk]
    rfl
  | worker w p p' f hw hm =>
    have there (hq : p.isBusy = true) := workersIn_pos hw hq
    rw [State.isStepOf_worker hw, State.isStepOf_worker hw]
    show (f s.counters).busy + _ = _
    cases hm with
    | unbusy job result => exact Nat.sub_add_cancel (by have := there rfl; omega)
    | _ => rfl
  | take w job rest hw hq =>
    rw [State.isStepOf_worker hw, State.isStepOf_worker hw]
    rfl
  | hand w job hw =>
    rw [State.isStepOf_worker hw, State.isStepOf_worker hw]
    rfl
  | reply w job result hw =>
    rw [State.isStepOf_worker hw, State.isStepOf_worker hw]
    rfl
  | exit w hw hq hs =>
    rw [State.isStepOf_worker hw, State.isStepOf_worker hw]
    rfl
  | _ => rfl

theorem accepted_eq (h : s.Reachable settings) : s.record.accepted.length =
    s.counters.executed + s.queue.length + s.workersIn WorkerPhase.isCarrying := by
  have booked := Account.booked_eq kept_acceptedJobs h
  simp only [acceptedJobs, callersIn_never, if_true] at booked
  omega

theorem ended_eq (h : s.Reachable settings) :
    s.record.ended.length = s.counters.executed + s.workersIn WorkerPhase.isEnding := by
  have booked := Account.booked_eq kept_endedJobs h
  simp only [endedJobs, callersIn_never, Bool.false_eq_true, if_false] at booked
  omega

theorem panicked_eq (h : s.Reachable settings) : s.record.ended.countP (·.2.isPanic) =
    s.counters.panics + s.workersIn WorkerPhase.isPanicking := by
  have booked := Account.booked_eq kept_panickedJobs h
  simp only [panickedJobs, callersIn_never, Bool.false_eq_true, if_false] at booked
  omega

theorem rejected_eq (h : s.Reachable settings) :
    s.counters.rejected = s.callersIn CallerPhase.isRejected := by
  have booked := Account.booked_eq kept_rejections h
  simp only [rejections, workersIn_never, Bool.false_eq_true, if_false] at booked
  omega

theorem timeouts_eq (h : s.Reachable settings) :
    s.counters.timeouts = s.callersIn CallerPhase.isTimedOut := by
  have booked := Account.booked_eq kept_timeouts h
  simp only [timeouts, workersIn_never, Bool.false_eq_true, if_false] at booked
  omega

theorem served_le (h : s.Reachable settings) :
    s.callersIn CallerPhase.isServed ≤ s.counters.executed := by
  have covered := Account.covered_of_reachable covers_deliveries h
  unfold Account.Covered at covered
  rw [Account.held_tokens] at covered
  simp only [deliveries, Bool.false_eq_true, if_false] at covered
  omega

end Balances

/-! ## 4. All counters -/

/-- A worker whose handler ended carries its job until that counts as executed. -/
theorem workersIn_isEnding_le (s : State α β) :
    s.workersIn WorkerPhase.isEnding ≤ s.workersIn WorkerPhase.isCarrying := by
  refine List.countP_mono_left fun p _ h => ?_
  cases p with
  | panicked job message => rfl
  | ended job result => rfl
  | leaving job result => rfl
  | _ => cases h

/-- A worker that counts as busy carries a job, and so does one that has yet to receive it. -/
theorem workersIn_isBusy_le (s : State α β) :
    s.workersIn WorkerPhase.isBusy ≤ s.workersIn WorkerPhase.isCarrying := by
  refine List.countP_mono_left fun p _ h => ?_
  cases p with
  | running job => rfl
  | panicked job message => rfl
  | ended job result => rfl
  | _ => cases h

theorem workersIn_isReceiving_le (s : State α β) :
    s.workersIn WorkerPhase.isReceiving ≤ s.workersIn WorkerPhase.isCarrying := by
  refine List.countP_mono_left fun p _ h => ?_
  cases p with
  | received job => rfl
  | _ => cases h

theorem isCarrying_of_isListening (p : WorkerPhase α β) (h : p.isListening = true) :
    p.isCarrying = false := by
  cases p with
  | listening => rfl
  | _ => cases h

/-- **What the counters of a pool say**, whatever its actors are in the middle of. -/
structure Accounting (settings : Settings) (s : State α β) : Prop where
  /-- The jobs that are queued, those that a caller counted and has not queued, or taken back,
  and those that a worker received and has not taken off. -/
  pending : s.counters.pending = s.queue.length + s.callersIn CallerPhase.isSubmitting
    + s.workersIn WorkerPhase.isReceiving
  busy : s.counters.busy = s.workersIn WorkerPhase.isBusy
  busy_le : s.counters.busy ≤ settings.workers
  accepted : s.record.accepted.length =
    s.counters.executed + s.queue.length + s.workersIn WorkerPhase.isCarrying
  /-- No more jobs wait or run than there are places and workers. -/
  backlog : s.record.accepted.length ≤
    s.counters.executed + (settings.capacity + settings.workers)
  panics : s.counters.panics + s.workersIn WorkerPhase.isPanicking =
    s.record.ended.countP (·.2.isPanic)
  panics_le : s.counters.panics ≤ s.counters.executed + s.workersIn WorkerPhase.isCarrying
  rejected : s.counters.rejected = s.callersIn CallerPhase.isRejected
  timeouts : s.counters.timeouts = s.callersIn CallerPhase.isTimedOut
  /-- Who has the outcome of its job has it after the job was counted. -/
  served : s.callersIn CallerPhase.isServed ≤ s.counters.executed
  /-- One up or one down: what is lowered was not zero. -/
  pending_step : ∀ (a : Action α β) (s' : State α β), s.step? a = some s' →
    s'.counters.pending + (if s.lowersPending a then 1 else 0) =
      s.counters.pending + (if s.raisesPending a then 1 else 0)
  busy_step : ∀ (a : Action α β) (s' : State α β), s.step? a = some s' →
    s'.counters.busy + (if s.lowersBusy a then 1 else 0) =
      s.counters.busy + (if s.raisesBusy a then 1 else 0)
  /-- When nothing is under way, every accepted job was executed. -/
  quiet : s.queue = [] → s.callersIn CallerPhase.isSubmitting = 0 →
    s.workersIn WorkerPhase.isCarrying = 0 →
    s.counters.pending = 0 ∧ s.counters.busy = 0 ∧ s.record.accepted.length = s.counters.executed

/-- **The counters say so in every reachable state.** -/
theorem accounting {settings : Settings} {s : State α β} (h : s.Reachable settings) :
    Accounting settings s := by
  have workers := (sealed_of_reachable h).workers
  have pending := pending_eq h
  have busy := busy_eq h
  have accepted := accepted_eq h
  have ending := workersIn_isEnding_le s
  have running := workersIn_isBusy_le s
  have receiving := workersIn_isReceiving_le s
  refine ⟨pending, busy, ?_, accepted, ?_, (panicked_eq h).symm, ?_, rejected_eq h, timeouts_eq h,
    served_le h, fun _ _ => pending_step h, fun _ _ => busy_step h, ?_⟩
  · have all : s.workersIn WorkerPhase.isBusy ≤ s.workers.length := List.countP_le_length
    omega
  · -- a job that is queued beyond the places has a worker that waits, and so carries none
    have queued := queue_length_le h
    have apart := workersIn_add_le isCarrying_of_isListening s
    omega
  · have among : s.record.ended.countP (·.2.isPanic) ≤ s.record.ended.length :=
      List.countP_le_length
    have panicked := panicked_eq h
    have ended := ended_eq h
    omega
  · intro empty nobody idle
    rw [empty, List.length_nil] at pending accepted
    omega

/-- Three callers come to a worker with one place in its queue. The handler of the first job
panicked, which was counted, and its caller gives up; the second job is queued; the third caller
found no place. -/
def crowded : State Unit Nat :=
  Steps.play State.step? (.new oneWorker)
    [.worker 0, .submit () (some { seconds := 5, nanos := 0 }),
      .caller 0, .caller 0, .caller 0, .caller 0, .worker 0, .worker 0, .worker 0,
      .submit () none, .caller 1, .caller 1, .caller 1, .caller 1,
      .submit () none, .caller 2, .caller 2, .caller 2, .caller 2,
      .expire 0, .finish 0 (.panicked "lost"), .worker 0]

theorem reachable_crowded : crowded.Reachable oneWorker :=
  Steps.play_keeps (P := State.Reachable oneWorker) (fun a h hs => .step h a hs) .start _

/-- Two jobs are pending, of which one is queued, and a worker is busy with a third. -/
theorem accounting_crowded : crowded.Reachable oneWorker ∧ Accounting oneWorker crowded ∧
    crowded.counters =
      { pending := 2, busy := 1, executed := 0, timeouts := 0, rejected := 0, panics := 1 } ∧
    crowded.queue.length = 1 :=
  ⟨reachable_crowded, accounting reachable_crowded, rfl, rfl⟩

end ScriptGateway.Pool
