import ScriptGateway.Proofs.Pool.Answers
import Mathlib.Data.Nat.Init
/-!
# The pool goes on

In a fair run nothing waits for ever: every accepted job is taken, handed over and ended, and every
caller gets an answer, whatever the others do.

* `State.after`: the state after so many actions of a schedule, any of which may be impossible.
* `Fair`: a worker, its handler or a caller that can go on from some time on does so once.
* `Fair.turn`: the induction that all progress is proved by.
* `Fair.taken`: a job behind others in the queue is taken after them.
* `Fair.rests`: a worker with a job comes to rest; `Fair.advances`: a queue that waits moves on.
-/

namespace ScriptGateway.Pool

variable {α β : Type}

/-! ## 1. Schedules -/

/-- Who may have to be waited for. -/
inductive Actor where
  | worker (index : Nat)
  | caller (index : Nat)
  deriving DecidableEq

/-- Who takes an action. The end of a handler is a step of its worker; nobody has to give up. -/
def Action.actor? : Action α β → Option Actor
  | .worker w => some (.worker w)
  | .finish w _ => some (.worker w)
  | .caller i => some (.caller i)
  | _ => none

/-- The state after the first actions of a schedule. An impossible action changes nothing. -/
def State.after (settings : Settings) (schedule : Nat → Action α β) : Nat → State α β
  | 0 => .new settings
  | n + 1 =>
    let s := State.after settings schedule n
    (s.step? (schedule n)).getD s

/-- Whether an actor can go on. -/
def State.Ready (s : State α β) (x : Actor) : Prop :=
  ∃ a : Action α β, a.actor? = some x ∧ (s.step? a).isSome = true

/-- Whether an actor goes on at a time. -/
def Moves (settings : Settings) (schedule : Nat → Action α β) (x : Actor) (n : Nat) : Prop :=
  (schedule n).actor? = some x ∧
    ((State.after settings schedule n).step? (schedule n)).isSome = true

/-- **Fairness**: who can always go on from some time on does so at some time. -/
def Fair (settings : Settings) (schedule : Nat → Action α β) : Prop :=
  ∀ (x : Actor) (n : Nat), (∀ m ≥ n, (State.after settings schedule m).Ready x) →
    ∃ m ≥ n, Moves settings schedule x m

section Schedule

variable {settings : Settings} {schedule : Nat → Action α β}

theorem reachable_after (settings : Settings) (schedule : Nat → Action α β) (n : Nat) :
    (State.after settings schedule n).Reachable settings := by
  induction n with
  | zero => exact .start
  | succ n ih =>
    show (((State.after settings schedule n).step? (schedule n)).getD _).Reachable settings
    cases h : (State.after settings schedule n).step? (schedule n) with
    | none => exact ih
    | some s => exact .step ih _ h

/-- At each time one rule applies, or nothing changes. -/
theorem after_succ (settings : Settings) (schedule : Nat → Action α β) (n : Nat) :
    Effect (State.after settings schedule n) (schedule n) (State.after settings schedule (n + 1)) ∨
      (¬ ((State.after settings schedule n).step? (schedule n)).isSome = true ∧
        State.after settings schedule (n + 1) = State.after settings schedule n) := by
  cases h : (State.after settings schedule n).step? (schedule n) with
  | none => exact .inr ⟨nofun, by rw [State.after, h]; rfl⟩
  | some s =>
    refine .inl (effect_of_step ?_)
    rw [h, State.after, h]
    rfl

theorem Moves.effect {x : Actor} {n : Nat} (h : Moves settings schedule x n) :
    Effect (State.after settings schedule n) (schedule n)
      (State.after settings schedule (n + 1)) := by
  rcases after_succ settings schedule n with he | ⟨hn, -⟩
  · exact he
  · exact absurd h.2 hn

/-- **What every rule keeps holds from the time on at which it holds.** -/
theorem after_induction {P : State α β → Prop} {n m : Nat} (hnm : n ≤ m)
    (start : P (State.after settings schedule n))
    (step : ∀ {s s' : State α β} {a : Action α β},
      s.Reachable settings → P s → Effect s a s' → P s') :
    P (State.after settings schedule m) := by
  induction m, hnm using Nat.le_induction with
  | base => exact start
  | succ m _ ih =>
    rcases after_succ settings schedule m with he | ⟨-, e⟩
    · exact step (reachable_after settings schedule m) ih he
    · exact e ▸ ih

/-- **One turn**: who is ready as long as it did not move moves, in the situation it is ready in. -/
theorem Fair.turn (fair : Fair settings schedule) {x : Actor} {P : Nat → Prop} {n : Nat}
    (start : P n) (ready : ∀ m ≥ n, P m → (State.after settings schedule m).Ready x)
    (keep : ∀ m ≥ n, P m → ¬ Moves settings schedule x m → P (m + 1)) :
    ∃ m ≥ n, P m ∧ Moves settings schedule x m := by
  by_contra never
  have always (m : Nat) (hm : n ≤ m) : P m := by
    induction m, hm using Nat.le_induction with
    | base => exact start
    | succ m hm ih => exact keep m hm ih fun hx => never ⟨m, hm, ih, hx⟩
  obtain ⟨m, hm, hx⟩ := fair x n fun m hm => ready m hm (always m hm)
  exact never ⟨m, hm, always m hm, hx⟩

end Schedule

/-! ## 2. The turns of a worker -/

/-- The steps a worker is away from its next rest. -/
def WorkerPhase.left : WorkerPhase α β → Nat
  | idle => 0
  | listening => 0
  | received _ => 7
  | dequeued _ => 6
  | running _ => 5
  | panicked _ _ => 4
  | ended _ _ => 3
  | leaving _ _ => 2
  | replying _ _ => 1
  | exited => 0

theorem WorkerPhase.left_pos {p : WorkerPhase α β} {stage : Stage} {job : Job α}
    (h : p.holding? = some (stage, job)) : 0 < p.left := by
  cases p with
  | idle => cases h
  | listening => cases h
  | exited => cases h
  | _ => exact Nat.succ_pos _

/-- Only its own steps change where a worker stands. -/
theorem worker_kept {s s' : State α β} {a : Action α β} {w : Nat} (he : Effect s a s')
    (ha : a.actor? ≠ some (.worker w)) : s'.workers[w]? = s.workers[w]? := by
  have other {v : Nat} {q : WorkerPhase α β} (hv : (Action.worker v : Action α β).actor? ≠
      some (.worker w)) : (s.setWorker v q).workers[w]? = s.workers[w]? :=
    State.workers_setWorker_ne fun e => hv (e ▸ rfl)
  cases he with
  | worker v p p' f hw hm => exact other (q := p') ha
  | take v job rest hw hq => exact other (q := .received job) ha
  | hand v job hw => exact other (q := .running job) ha
  | finish v job outcome hw => exact other (q := State.afterwards job outcome) ha
  | reply v job result hw => exact other (q := .idle) ha
  | exit v hw hq hs => exact other (q := .exited) ha
  | _ => rfl

/-- A worker with a job can go on, if only by the end of its handler. -/
theorem ready_of_left {s : State α β} {w : Nat} {p : WorkerPhase α β}
    (hw : s.workers[w]? = some p) (hp : 0 < p.left) : s.Ready (.worker w) := by
  have own (h : (s.workerStep? w p).isSome = true) : s.Ready (.worker w) :=
    ⟨.worker w, rfl, by simpa only [State.step?, hw, Option.bind_some] using h⟩
  cases p with
  | running job => exact ⟨.finish w (.panicked ""), rfl, by simp [State.step?, hw, State.finish?]⟩
  | idle => cases hp
  | listening => cases hp
  | exited => cases hp
  | _ => exact own rfl

/-- Each step of a worker with a job brings it nearer to its rest. -/
theorem left_lower {s s' : State α β} {a : Action α β} {w : Nat} {p : WorkerPhase α β}
    (he : Effect s a s') (ha : a.actor? = some (.worker w)) (hw : s.workers[w]? = some p)
    (hp : 0 < p.left) : ∃ q, s'.workers[w]? = some q ∧ q.left < p.left ∧
      (0 < q.left ∨ q = .idle) := by
  cases he with
  | worker v p₀ q f hv hm =>
    cases ha
    obtain rfl := Option.some.inj (hv.symm.trans hw)
    refine ⟨q, State.workers_setWorker_self (s := s.count f) hv, ?_⟩
    cases hm with
    | listen h => cases hp
    | _ => exact ⟨Nat.lt_succ_self _, .inl (Nat.succ_pos _)⟩
  | take v job rest hv hq =>
    cases ha
    obtain rfl := Option.some.inj (hv.symm.trans hw)
    cases hp
  | hand v job hv =>
    cases ha
    obtain rfl := Option.some.inj (hv.symm.trans hw)
    exact ⟨.running job, State.workers_setWorker_self hv, Nat.lt_succ_self 5, .inl (Nat.succ_pos 4)⟩
  | finish v job outcome hv =>
    cases ha
    obtain rfl := Option.some.inj (hv.symm.trans hw)
    refine ⟨State.afterwards job outcome, State.workers_setWorker_self hv, ?_⟩
    cases outcome <;> exact ⟨by simp [State.afterwards, WorkerPhase.left], .inl (Nat.succ_pos _)⟩
  | reply v job result hv =>
    cases ha
    obtain rfl := Option.some.inj (hv.symm.trans hw)
    exact ⟨.idle, State.workers_setWorker_self (s := s.reply job.caller result) hv,
      Nat.succ_pos 0, .inr rfl⟩
  | exit v hv hq hs =>
    cases ha
    obtain rfl := Option.some.inj (hv.symm.trans hw)
    cases hp
  | _ => cases ha

section Worker

variable {settings : Settings} {schedule : Nat → Action α β}

/-- A worker that does not move stands where it stood. -/
theorem worker_stays {w n : Nat} (h : ¬ Moves settings schedule (.worker w) n) :
    (State.after settings schedule (n + 1)).workers[w]? =
      (State.after settings schedule n).workers[w]? := by
  rcases after_succ settings schedule n with he | ⟨-, e⟩
  · by_cases ha : (schedule n).actor? = some (.worker w)
    · cases hs : (State.after settings schedule n).step? (schedule n) with
      | none =>
        rw [State.after, hs]
        rfl
      | some s => exact absurd ⟨ha, by rw [hs]; rfl⟩ h
    · exact worker_kept he ha
  · rw [e]

/-- **A worker with a job comes to rest.** -/
theorem Fair.rests (fair : Fair settings schedule) {w n : Nat} {p : WorkerPhase α β}
    (hw : (State.after settings schedule n).workers[w]? = some p) (hp : 0 < p.left) :
    ∃ m ≥ n, (State.after settings schedule m).workers[w]? = some .idle := by
  induction hr : p.left using Nat.strong_induction_on generalizing n p with
  | h r ih =>
    obtain ⟨m, hm, hw', hx⟩ := fair.turn
      (P := fun m => (State.after settings schedule m).workers[w]? = some p) hw
      (fun m _ h => ready_of_left h hp) (fun m _ h hx => (worker_stays hx).trans h)
    obtain ⟨q, hq, hlt, hnext⟩ := left_lower hx.effect hx.1 hw' hp
    rcases hnext with hpos | rfl
    · obtain ⟨m', hm', h⟩ := ih q.left (hr ▸ hlt) hq hpos rfl
      exact ⟨m', by omega, h⟩
    · exact ⟨m + 1, by omega, hq⟩

end Worker

/-! ## 3. The queue advances -/

/-- A listening worker takes the first job of a queue that is not empty. -/
theorem ready_of_listening {s : State α β} {w : Nat} (hw : s.workers[w]? = some .listening)
    (hq : s.queue ≠ []) : s.Ready (.worker w) := by
  refine ⟨.worker w, rfl, ?_⟩
  cases e : s.queue with
  | nil => exact absurd e hq
  | cons job rest => simp [State.step?, hw, State.workerStep?, e]

/-- A worker at rest may listen if nobody does. -/
theorem ready_of_idle {s : State α β} {w : Nat} (hw : s.workers[w]? = some .idle)
    (hl : ∀ v : Nat, s.workers[v]? ≠ some .listening) : s.Ready (.worker w) := by
  have quiet : s.workers.any WorkerPhase.isListening = false := by
    refine List.any_eq_false.mpr ?_
    intro p hp
    obtain ⟨v, hv⟩ := List.mem_iff_getElem?.mp hp
    cases p with
    | listening => exact absurd hv (hl v)
    | _ => exact Bool.false_ne_true
  exact ⟨.worker w, rfl, by simp [State.step?, hw, State.workerStep?, quiet]⟩

/-- What a listening worker does to a queue that is not empty is to take a job off it. -/
theorem taken_of_listening {s s' : State α β} {a : Action α β} {w : Nat} (he : Effect s a s')
    (ha : a.actor? = some (.worker w)) (hw : s.workers[w]? = some .listening)
    (hq : s.queue ≠ []) : s'.record.taken.length = s.record.taken.length + 1 := by
  cases he with
  | worker v p q f hv hm =>
    cases ha
    obtain rfl := Option.some.inj (hv.symm.trans hw)
    cases hm
  | take v job rest hv hq => exact List.length_append
  | hand v job hv =>
    cases ha
    cases hv.symm.trans hw
  | finish v job outcome hv =>
    cases ha
    cases hv.symm.trans hw
  | reply v job result hv =>
    cases ha
    cases hv.symm.trans hw
  | exit v hv hq' hs => exact absurd hq' hq
  | _ => cases ha

/-- What a worker at rest does is to listen. -/
theorem listening_of_idle {s s' : State α β} {a : Action α β} {w : Nat} (he : Effect s a s')
    (ha : a.actor? = some (.worker w)) (hw : s.workers[w]? = some .idle) :
    s'.workers[w]? = some .listening := by
  cases he with
  | worker v p q f hv hm =>
    cases ha
    obtain rfl := Option.some.inj (hv.symm.trans hw)
    cases hm with
    | listen h => exact State.workers_setWorker_self (s := s.count id) hv
  | take v job rest hv hq =>
    cases ha
    cases hv.symm.trans hw
  | hand v job hv =>
    cases ha
    cases hv.symm.trans hw
  | finish v job outcome hv =>
    cases ha
    cases hv.symm.trans hw
  | reply v job result hv =>
    cases ha
    cases hv.symm.trans hw
  | exit v hv hq' hs =>
    cases ha
    cases hv.symm.trans hw
  | _ => cases ha

section Queue

variable {settings : Settings} {schedule : Nat → Action α β}

theorem ledger_after (settings : Settings) (schedule : Nat → Action α β) (n : Nat) :
    Ledger (State.after settings schedule n) :=
  ledger_of_reachable (reachable_after settings schedule n)

theorem sealed_after (settings : Settings) (schedule : Nat → Action α β) (n : Nat) :
    Sealed settings (State.after settings schedule n) :=
  sealed_of_reachable (reachable_after settings schedule n)

/-- The queue has what was accepted and not taken. -/
theorem Ledger.queue_length {s : State α β} (h : Ledger s) :
    s.record.accepted.length = s.record.taken.length + s.queue.length := by
  rw [h.order, List.length_append, List.length_map]

theorem record_after (settings : Settings) (schedule : Nat → Action α β) {n m : Nat} (hnm : n ≤ m) :
    (State.after settings schedule n).record.accepted <+:
        (State.after settings schedule m).record.accepted ∧
      (State.after settings schedule n).record.taken <+:
        (State.after settings schedule m).record.taken :=
  after_induction (P := fun s => _ <+: s.record.accepted ∧ _ <+: s.record.taken) hnm
    ⟨List.prefix_rfl, List.prefix_rfl⟩
    fun _ ih he => ⟨ih.1.trans (record_grows he).1, ih.2.trans (record_grows he).2.1⟩

/-- **A queue that is not empty gets shorter at its head.** If it never did, nobody would ever
listen, since who listens takes a job; but then some worker would come to rest and listen. -/
theorem Fair.advances (fair : Fair settings schedule) {n : Nat}
    (hq : (State.after settings schedule n).queue ≠ []) :
    ∃ m ≥ n, (State.after settings schedule n).record.taken.length <
      (State.after settings schedule m).record.taken.length := by
  by_contra never
  have stuck (m : Nat) (hm : n ≤ m) : (State.after settings schedule m).record.taken.length =
      (State.after settings schedule n).record.taken.length :=
    Nat.le_antisymm (Nat.le_of_not_lt fun h => never ⟨m, hm, h⟩)
      (record_after settings schedule hm).2.length_le
  have full (m : Nat) (hm : n ≤ m) : (State.after settings schedule m).queue ≠ [] := by
    have h1 := (ledger_after settings schedule n).queue_length
    have h2 := (ledger_after settings schedule m).queue_length
    have h3 := (record_after settings schedule hm).1.length_le
    have h4 := stuck m hm
    have h5 := List.length_pos_iff.mpr hq
    exact List.length_pos_iff.mp (by omega)
  have quiet (m : Nat) (hm : n ≤ m) (w : Nat) :
      (State.after settings schedule m).workers[w]? ≠ some .listening := by
    intro hw
    obtain ⟨l, hl, hw', hx⟩ := fair.turn (n := m)
      (P := fun l => (State.after settings schedule l).workers[w]? = some .listening) hw
      (fun l hl h => ready_of_listening h (full l (by omega)))
      (fun l _ h hx => (worker_stays hx).trans h)
    have h1 := taken_of_listening hx.effect hx.1 hw' (full l (by omega))
    have h2 := stuck l (by omega)
    have h3 := stuck (l + 1) (by omega)
    omega
  -- worker 0 has not exited, since the queue is not empty
  have sealed := sealed_after settings schedule n
  have h0 : 0 < (State.after settings schedule n).workers.length :=
    sealed.workers.symm ▸ settings.workers_pos
  have hw := List.getElem?_eq_getElem h0
  have rest : ∃ m ≥ n, (State.after settings schedule m).workers[0]? = some .idle := by
    by_cases hp : 0 < (State.after settings schedule n).workers[0].left
    · exact fair.rests hw hp
    · cases e : (State.after settings schedule n).workers[0] with
      | idle => exact ⟨n, Nat.le_refl n, e ▸ hw⟩
      | listening => exact absurd (e ▸ hw) (quiet n (Nat.le_refl n) 0)
      | exited => exact absurd (sealed.exited 0 (e ▸ hw)).1 hq
      | _ => rw [e] at hp; exact absurd (Nat.succ_pos _) hp
  obtain ⟨m, hm, hidle⟩ := rest
  obtain ⟨l, hl, hw', hx⟩ := fair.turn (n := m)
    (P := fun l => (State.after settings schedule l).workers[0]? = some .idle) hidle
    (fun l hl h => ready_of_idle h (quiet l (by omega)))
    (fun l _ (h : _ = some .idle) hx => (worker_stays hx).trans h)
  exact quiet (l + 1) (by omega) 0 (listening_of_idle hx.effect hx.1 hw')

/-- **Who is in the queue is taken**, however many are before it. -/
theorem Fair.taken (fair : Fair settings schedule) {n position : Nat}
    (h : position < (State.after settings schedule n).record.accepted.length) :
    ∃ m ≥ n, position < (State.after settings schedule m).record.taken.length := by
  induction hd : position + 1 - (State.after settings schedule n).record.taken.length
      using Nat.strong_induction_on generalizing n with
  | h d ih =>
    by_cases ht : position < (State.after settings schedule n).record.taken.length
    · exact ⟨n, Nat.le_refl n, ht⟩
    · have hl := (ledger_after settings schedule n).queue_length
      obtain ⟨m, hm, hlt⟩ := fair.advances (n := n) (List.length_pos_iff.mp (by omega))
      have ha := (record_after settings schedule hm).1.length_le
      obtain ⟨l, hl', h'⟩ := ih _ (by omega) (n := m) (by omega) rfl
      exact ⟨l, by omega, h'⟩

end Queue

end ScriptGateway.Pool
