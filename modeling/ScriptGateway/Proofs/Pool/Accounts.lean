import ScriptGateway.Proofs.Pool.Answers
/-!
# What the counters count

The counters of a pool are raised and lowered by different actors, each at a step of its own. All
the same every one of them can be told at every moment from where the actors stand.

* `Tokens`, `Turn`: a step as a game with tokens. Callers and workers stand in phases and jobs in
  the queue; a turn takes some of these tokens away and puts others in their place.
* `turn_of_effect`: every step of the pool is a turn.
* `Account`: a counter, or a number of entries in the record, with the tokens that it counts.
* `Account.balanced_of_reachable`: an account that every turn keeps in balance is balanced in every
  reachable state.
* `Account.covered_of_reachable`: the same for an account that may lose tokens.
-/

namespace ScriptGateway.Pool

variable {α β : Type}

/-! ## 1. Tokens -/

/-- The phases in which callers and workers stand, and how many jobs are queued. -/
structure Tokens (α β : Type) where
  callers : List (CallerPhase β)
  workers : List (WorkerPhase α β)
  queued : Nat

/-- The tokens of a state. -/
def State.tokens (s : State α β) : Tokens α β :=
  { callers := s.callers.map Caller.phase, workers := s.workers, queued := s.queue.length }

/-- **The turns**: the counters and the record before it with the tokens that are taken away, and
the counters and the record after it with the tokens that are put. -/
inductive Turn : Counters → Record β → Tokens α β → Counters → Record β → Tokens α β → Prop where
  | arrive (n : Counters) (r : Record β) : Turn n r ⟨[], [], 0⟩ n r ⟨[.arrived], [], 0⟩
  | caller {s : State α β} {p p' : CallerPhase β} {f : Counters → Counters}
      (hm : CallerMove s p f p') :
      Turn s.counters s.record ⟨[p], [], 0⟩ (f s.counters) s.record ⟨[p'], [], 0⟩
  | expire (n : Counters) (r : Record β) (limit : Duration) :
      Turn n r ⟨[.waiting], [], 0⟩ n r ⟨[.expired limit], [], 0⟩
  | accept (n : Counters) (r : Record β) (i : Nat) : Turn n r ⟨[.counted], [], 0⟩
      n { r with accepted := r.accepted ++ [i] } ⟨[.waiting], [], 1⟩
  | worker {s : State α β} {p p' : WorkerPhase α β} {f : Counters → Counters}
      (hm : WorkerMove s p f p') :
      Turn s.counters s.record ⟨[], [p], 0⟩ (f s.counters) s.record ⟨[], [p'], 0⟩
  | take (n : Counters) (r : Record β) (job : Job α) : Turn n r ⟨[], [.listening], 1⟩
      n { r with taken := r.taken ++ [job.caller] } ⟨[], [.received job], 0⟩
  | hand (n : Counters) (r : Record β) (job : Job α) (w : Nat) : Turn n r ⟨[], [.dequeued job], 0⟩
      { n with busy := n.busy + 1 } { r with handed := r.handed ++ [(job.caller, w)] }
      ⟨[], [.running job], 0⟩
  | finish (n : Counters) (r : Record β) (job : Job α) (outcome : Outcome β) :
      Turn n r ⟨[], [.running job], 0⟩ n { r with ended := r.ended ++ [(job.caller, outcome)] }
        ⟨[], [State.afterwards job outcome], 0⟩
  | deliver (n : Counters) (r : Record β) (job : Job α) (outcome : Outcome β) :
      Turn n r ⟨[.waiting], [.replying job outcome.result], 0⟩
        n r ⟨[.answered outcome.result], [.idle], 0⟩
  /-- The caller no longer waits for the reply. -/
  | lose (n : Counters) (r : Record β) (job : Job α) (outcome : Outcome β) :
      Turn n r ⟨[], [.replying job outcome.result], 0⟩ n r ⟨[], [.idle], 0⟩
  | exit (n : Counters) (r : Record β) : Turn n r ⟨[], [.listening], 0⟩ n r ⟨[], [.exited], 0⟩
  /-- What closers do concerns no token. -/
  | aside (n : Counters) (r : Record β) : Turn n r ⟨[], [], 0⟩ n r ⟨[], [], 0⟩

/-! ## 2. Every step is a turn -/

/-- Some elements of a list are taken away and others put in their place; whatever is counted, the
rest of the list is counted as before. -/
def Exchanged {γ : Type} (l l' taken put : List γ) : Prop :=
  ∀ q, ∃ others, l.countP q = others + taken.countP q ∧ l'.countP q = others + put.countP q

theorem Exchanged.refl {γ : Type} (l : List γ) : Exchanged l l [] [] :=
  fun q => ⟨l.countP q, rfl, rfl⟩

theorem exchanged_append {γ : Type} (l : List γ) (a : γ) : Exchanged l (l ++ [a]) [] [a] :=
  fun q => ⟨l.countP q, rfl, List.countP_append⟩

theorem exchanged_set {γ : Type} {l : List γ} {i : Nat} {a : γ} (h : l[i]? = some a) (b : γ) :
    Exchanged l (l.set i b) [a] [b] := by
  intro q
  have moved := countP_set_add (b := b) q h
  have there : (if q a then 1 else 0) ≤ l.countP q := by
    split
    · next ha => exact List.countP_pos_iff.mpr ⟨a, List.mem_of_getElem? h, ha⟩
    · exact Nat.zero_le _
  refine ⟨l.countP q - (if q a then 1 else 0), ?_, ?_⟩ <;>
  · rw [List.countP_singleton]
    omega

/-- The tokens of a state after a turn are those before it, except for what the turn exchanged. -/
structure Tokens.Exchanged (t t' taken put : Tokens α β) : Prop where
  callers : Pool.Exchanged t.callers t'.callers taken.callers put.callers
  workers : Pool.Exchanged t.workers t'.workers taken.workers put.workers
  queued : ∃ others, t.queued = others + taken.queued ∧ t'.queued = others + put.queued

theorem phases_setCaller (s : State α β) (i : Nat) (p : CallerPhase β) :
    (s.setCaller i p).tokens.callers = s.tokens.callers.set i p := by
  unfold State.tokens State.setCaller
  simp only [List.modify_eq_set_getElem?]
  cases hk : s.callers[i]? with
  | none =>
    have out : (s.callers.map Caller.phase).length ≤ i := by
      rw [List.length_map]
      exact List.getElem?_eq_none_iff.mp hk
    exact (List.set_eq_of_length_le out).symm
  | some k => exact List.map_set

theorem exchanged_setCaller {s : State α β} {i : Nat} {k : Caller α β} (p : CallerPhase β)
    (hk : s.callers[i]? = some k) :
    Exchanged s.tokens.callers (s.setCaller i p).tokens.callers [k.phase] [p] := by
  rw [phases_setCaller]
  refine exchanged_set ?_ p
  unfold State.tokens
  rw [List.getElem?_map, hk]
  rfl

/-- A caller that gets a reply waits for it, or the reply is lost. -/
theorem exchanged_reply (s : State α β) (i : Nat) (result : Except Error β) :
    Exchanged s.tokens.callers (s.reply i result).tokens.callers [.waiting] [.answered result] ∨
      (s.reply i result).tokens.callers = s.tokens.callers := by
  cases hk : s.callers[i]? with
  | none =>
    refine .inr ?_
    unfold State.tokens State.reply
    rw [List.modify_eq_set_getElem?, hk]
    rfl
  | some k =>
    cases hp : k.phase.isWaiting with
    | true =>
      have waiting : k.phase = .waiting := by
        cases e : k.phase with
        | waiting => rfl
        | _ => rw [e] at hp; cases hp
      have same : (s.reply i result).tokens.callers =
          (s.setCaller i (.answered result)).tokens.callers := by
        unfold State.tokens State.reply State.setCaller
        simp only [List.modify_eq_set_getElem?, hk]
        show (s.callers.set i (if k.phase.isWaiting then _ else _)).map _ = _
        rw [hp]
        rfl
      exact .inl (same ▸ waiting ▸ exchanged_setCaller _ hk)
    | false =>
      have same : (s.reply i result).callers = s.callers := by
        unfold State.reply
        rw [List.modify_eq_set_getElem?, hk]
        show s.callers.set i (if k.phase.isWaiting then _ else k) = s.callers
        rw [hp]
        obtain ⟨hi, e⟩ := List.getElem?_eq_some_iff.mp hk
        exact e ▸ List.set_getElem_self hi
      refine .inr ?_
      unfold State.tokens
      rw [same]

/-- **Every step is a turn.** -/
theorem turn_of_effect {s s' : State α β} {a : Action α β} (hc : Carried s) (he : Effect s a s') :
    ∃ taken put, Turn s.counters s.record taken s'.counters s'.record put ∧
      Tokens.Exchanged s.tokens s'.tokens taken put := by
  -- the queue, if the step leaves it alone
  have still (n : Nat) : ∃ others, n = others + 0 ∧ n = others + 0 := ⟨n, rfl, rfl⟩
  cases he with
  | submit request limit =>
    refine ⟨_, _, .arrive _ _, ?_, .refl _, still _⟩
    show Exchanged s.tokens.callers ((s.callers ++ [_]).map Caller.phase) [] [.arrived]
    rw [List.map_append]
    exact exchanged_append _ _
  | caller i k f p hk hm =>
    exact ⟨_, _, .caller hm, exchanged_setCaller p hk, .refl _, still _⟩
  | expire i k limit hk hp hl =>
    exact ⟨_, _, .expire _ _ limit, hp ▸ exchanged_setCaller _ hk, .refl _, still _⟩
  | accept i k hk hp ha hr =>
    exact ⟨_, _, .accept _ _ i, hp ▸ exchanged_setCaller _ hk, .refl _,
      s.queue.length, rfl, List.length_append⟩
  | worker w p p' f hw hm =>
    exact ⟨_, _, .worker hm, .refl _, exchanged_set hw p', still _⟩
  | take w job rest hw hq =>
    exact ⟨_, _, .take _ _ job, .refl _, exchanged_set hw _, rest.length,
      congrArg List.length hq, rfl⟩
  | hand w job hw => exact ⟨_, _, .hand _ _ job w, .refl _, exchanged_set hw _, still _⟩
  | finish w job outcome hw =>
    exact ⟨_, _, .finish _ _ job outcome, .refl _, exchanged_set hw _, still _⟩
  | reply w job result hw =>
    obtain ⟨outcome, -, rfl⟩ := hc.booked w _ hw
    rcases exchanged_reply s job.caller outcome.result with delivered | lost
    · exact ⟨_, _, .deliver _ _ job outcome, delivered, exchanged_set hw _, still _⟩
    · refine ⟨_, _, .lose _ _ job outcome, ?_, exchanged_set hw _, still _⟩
      show Exchanged s.tokens.callers (s.reply job.caller outcome.result).tokens.callers [] []
      rw [lost]
      exact .refl _
  | exit w hw hq hs => exact ⟨_, _, .exit _ _, .refl _, exchanged_set hw _, still _⟩
  | _ => exact ⟨_, _, .aside _ _, .refl _, .refl _, still _⟩

/-! ## 3. Accounts -/

/-- **An account**: what is booked in it is either settled, or is a token that the account holds. -/
structure Account (α β : Type) where
  booked : Counters → Record β → Nat
  settled : Counters → Nat
  caller : CallerPhase β → Bool
  worker : WorkerPhase α β → Bool
  queued : Bool

namespace Account

/-- How many tokens an account holds. -/
def held (A : Account α β) (t : Tokens α β) : Nat :=
  t.callers.countP A.caller + t.workers.countP A.worker + (if A.queued then t.queued else 0)

/-- All that is booked is settled or held. -/
def Balanced (A : Account α β) (s : State α β) : Prop :=
  A.booked s.counters s.record = A.settled s.counters + A.held s.tokens

/-- What is settled and what is held was booked, and perhaps more. -/
def Covered (A : Account α β) (s : State α β) : Prop :=
  A.settled s.counters + A.held s.tokens ≤ A.booked s.counters s.record

/-- What an account holds is exchanged along with the tokens. -/
theorem held_exchanged (A : Account α β) {t t' taken put : Tokens α β}
    (h : t.Exchanged t' taken put) :
    ∃ others, A.held t = others + A.held taken ∧ A.held t' = others + A.held put := by
  obtain ⟨callers, hc, hc'⟩ := h.callers A.caller
  obtain ⟨workers, hw, hw'⟩ := h.workers A.worker
  obtain ⟨queued, hq, hq'⟩ := h.queued
  refine ⟨callers + workers + (if A.queued then queued else 0), ?_, ?_⟩
  · unfold held
    rw [hc, hw, hq]
    split <;> omega
  · unfold held
    rw [hc', hw', hq']
    split <;> omega

/-- **An account that every turn keeps in balance.** A turn finds the tokens that it takes away. -/
structure Kept (A : Account α β) : Prop where
  new : A.booked .zero { accepted := [], taken := [], handed := [], ended := [] } = A.settled .zero
  idle : A.worker .idle = false
  turn : ∀ {n r taken n' r' put}, Turn n r taken n' r' put →
    A.settled n + A.held taken ≤ A.booked n r →
      A.booked n' r' + A.settled n + A.held taken = A.booked n r + A.settled n' + A.held put

/-- An account that is never in debt, though a turn may take more tokens away than it settles. -/
structure Covers (A : Account α β) : Prop where
  new : A.settled .zero ≤ A.booked .zero { accepted := [], taken := [], handed := [], ended := [] }
  idle : A.worker .idle = false
  turn : ∀ {n r taken n' r' put}, Turn n r taken n' r' put →
    A.settled n + A.held taken ≤ A.booked n r →
      A.booked n r + A.settled n' + A.held put ≤ A.booked n' r' + A.settled n + A.held taken

theorem held_new {A : Account α β} (h : A.worker .idle = false) (settings : Settings) :
    A.held (State.new settings : State α β).tokens = 0 := by
  unfold held
  simp [State.tokens, State.new, List.countP_replicate, h]

/-- **An account that every turn keeps in balance is balanced in every reachable state.** -/
theorem balanced_of_reachable {A : Account α β} (h : A.Kept) {settings : Settings}
    {s : State α β} (hr : s.Reachable settings) : A.Balanced s := by
  refine reachable_induction (P := A.Balanced) ?_ ?_ hr
  · unfold Balanced
    rw [held_new h.idle]
    exact h.new
  · intro s s' a hr ih he
    obtain ⟨taken, put, turn, exchanged⟩ := turn_of_effect (standing_of_reachable hr).2 he
    obtain ⟨others, before, after⟩ := A.held_exchanged exchanged
    unfold Balanced at ih ⊢
    have moved := h.turn turn (by omega)
    omega

theorem covered_of_reachable {A : Account α β} (h : A.Covers) {settings : Settings}
    {s : State α β} (hr : s.Reachable settings) : A.Covered s := by
  refine reachable_induction (P := A.Covered) ?_ ?_ hr
  · unfold Covered
    rw [held_new h.idle]
    exact h.new
  · intro s s' a hr ih he
    obtain ⟨taken, put, turn, exchanged⟩ := turn_of_effect (standing_of_reachable hr).2 he
    obtain ⟨others, before, after⟩ := A.held_exchanged exchanged
    unfold Covered at ih ⊢
    have moved := h.turn turn (by omega)
    omega

end Account

end ScriptGateway.Pool
