import ScriptGateway.Proofs.Pool.Progress
/-!
# Every caller gets its answer

In a fair run every accepted job ends, and every caller is answered once and for all: with the
outcome of its own job, unless it was refused or gave up itself.

* `Settled`: a job ended and nobody waits for it any more. A worker with the job settles it.
* `Fair.settles`: every accepted job is settled at some time.
* `answer_kept`, `Fair.answers`: an answer is final, and every caller gets one.
* `gaveUp_after`: who is told that it gave up did so.
-/

namespace ScriptGateway.Pool

variable {α β : Type}

/-! ## 1. From a worker to the caller -/

/-- A job that ended and that no caller waits for any more. -/
structure Settled (s : State α β) (c : Nat) : Prop where
  ended : c ∈ s.record.endedCallers
  answered : ∀ k, s.callers[c]? = some k → k.phase ≠ .waiting

/-- A worker that has the job of a caller. -/
def HasJob (s : State α β) (w c : Nat) : Prop :=
  ∃ (p : WorkerPhase α β) (stage : Stage) (job : Job α),
    s.workers[w]? = some p ∧ p.holding? = some (stage, job) ∧ job.caller = c

/-- Where some stage of a job counts, there is a worker that has it. -/
theorem hasJob_of_held {s : State α β} {stage : Stage} {c : Nat} (h : 0 < s.held stage c) :
    ∃ w, HasJob s w c := by
  obtain ⟨p, hp, hh⟩ := List.countP_pos_iff.mp h
  obtain ⟨w, hw⟩ := List.mem_iff_getElem?.mp hp
  cases e : p.holding? with
  | none =>
    rw [WorkerPhase.holds, e] at hh
    cases hh
  | some held =>
    obtain ⟨stage', job⟩ := held
    rw [WorkerPhase.holds, e] at hh
    exact ⟨w, p, stage', job, hw, e, (of_decide_eq_true hh).2⟩

/-- Who waits after a step was accepted: it waited before, or its job was just queued. -/
theorem Settled.step {s s' : State α β} {a : Action α β} {c : Nat} (hl : Ledger s)
    (hs : Standing s) (h : Settled s c) (he : Effect s a s') : Settled s' c := by
  have ended : c ∈ s'.record.endedCallers :=
    ((record_grows he).2.2.2.map Prod.fst).subset h.ended
  refine ⟨ended, fun k hk hp => ?_⟩
  cases he with
  | submit request limit =>
    rcases getElem?_concat hk with hk | ⟨-, rfl⟩
    · exact h.answered k hk hp
    · cases hp
  | caller i k₀ f p hk₀ hm =>
    rcases State.callers_setCaller hk with ⟨-, k₁, -, rfl⟩ | ⟨-, hk⟩
    · obtain rfl : p = .waiting := hp
      exact hm.not_waiting
    · exact h.answered k hk hp
  | expire i k₀ limit hk₀ hp₀ hl₀ =>
    rcases State.callers_setCaller hk with ⟨-, k₁, -, rfl⟩ | ⟨-, hk⟩
    · cases hp
    · exact h.answered k hk hp
  | accept i k₀ hk₀ hp₀ ha hr =>
    rcases State.callers_setCaller hk with ⟨rfl, k₁, hk₁, rfl⟩ | ⟨-, hk⟩
    · -- the job of a caller that is only about to queue it cannot have ended
      have := hs.stands c k₀ hk₀
      rw [Stands, hp₀] at this
      exact this (hl.accepted_of_ended h.ended)
    · exact h.answered k hk hp
  | reply w job result hw =>
    rcases State.callers_reply hk with ⟨hk, -⟩ | ⟨-, k₁, -, -, rfl⟩
    · exact h.answered k hk hp
    · cases hp
  | _ => exact h.answered k hk hp

/-- **A worker keeps the job it has until it is settled.** -/
theorem HasJob.step {s s' : State α β} {a : Action α β} {w c : Nat} (hc : Carried s)
    (h : HasJob s w c) (he : Effect s a s') : HasJob s' w c ∨ Settled s' c := by
  obtain ⟨p, stage, job, hw, hp, rfl⟩ := h
  by_cases ha : a.actor? = some (.worker w)
  · cases he with
    | worker v q q' f hv hm =>
      cases ha
      obtain rfl := Option.some.inj (hv.symm.trans hw)
      exact .inl ⟨q', stage, job, State.workers_setWorker_self (s := s.count f) hv,
        hm.holding.trans hp, rfl⟩
    | take v j rest hv hq =>
      cases ha
      obtain rfl := Option.some.inj (hv.symm.trans hw)
      cases hp
    | hand v j hv =>
      cases ha
      obtain rfl := Option.some.inj (hv.symm.trans hw)
      cases hp
      exact .inl ⟨.running job, .running, job, State.workers_setWorker_self hv, rfl, rfl⟩
    | finish v j outcome hv =>
      cases ha
      obtain rfl := Option.some.inj (hv.symm.trans hw)
      cases hp
      refine .inl ⟨State.afterwards job outcome, .outgoing, job,
        State.workers_setWorker_self hv, ?_, rfl⟩
      cases outcome <;> rfl
    | reply v j result hv =>
      cases ha
      obtain rfl := Option.some.inj (hv.symm.trans hw)
      cases hp
      obtain ⟨o, ho, -⟩ := hc.booked _ _ hv
      refine .inr ⟨List.mem_map.mpr ⟨_, ho, rfl⟩, fun k hk hp => ?_⟩
      rcases State.callers_reply hk with ⟨-, hn⟩ | ⟨-, k₁, -, -, rfl⟩
      · have := hn rfl
        rw [hp] at this
        cases this
      · cases hp
    | exit v hv hq hs =>
      cases ha
      obtain rfl := Option.some.inj (hv.symm.trans hw)
      cases hp
    | _ => cases ha
  · exact .inl ⟨p, stage, job, (worker_kept he ha).trans hw, hp, rfl⟩

section Jobs

variable {settings : Settings} {schedule : Nat → Action α β}

theorem standing_after (settings : Settings) (schedule : Nat → Action α β) (n : Nat) :
    Standing (State.after settings schedule n) ∧ Carried (State.after settings schedule n) :=
  standing_of_reachable (reachable_after settings schedule n)

/-- Once settled, always settled. -/
theorem Settled.after {n m c : Nat} (hnm : n ≤ m)
    (h : Settled (State.after settings schedule n) c) :
    Settled (State.after settings schedule m) c :=
  after_induction (P := fun s => Settled s c) hnm h fun hr ih he =>
    ih.step (ledger_of_reachable hr) (standing_of_reachable hr).1 he

/-- A worker that has a job settles it before it rests. -/
theorem Fair.settles_job (fair : Fair settings schedule) {n w c : Nat}
    (h : HasJob (State.after settings schedule n) w c) :
    ∃ m ≥ n, Settled (State.after settings schedule m) c := by
  obtain ⟨p, stage, job, hw, hp, hc⟩ := h
  obtain ⟨m, hm, hidle⟩ := fair.rests hw (WorkerPhase.left_pos hp)
  have either : HasJob (State.after settings schedule m) w c ∨
      Settled (State.after settings schedule m) c := by
    refine after_induction (P := fun s => HasJob s w c ∨ Settled s c) hm
      (.inl ⟨p, stage, job, hw, hp, hc⟩) ?_
    intro s s' a hr ih he
    rcases ih with ih | ih
    · exact ih.step (standing_of_reachable hr).2 he
    · exact .inr (ih.step (ledger_of_reachable hr) (standing_of_reachable hr).1 he)
  rcases either with ⟨q, stage', job', hw', hq, -⟩ | h
  · cases hidle.symm.trans hw'
    cases hq
  · exact ⟨m, hm, h⟩

/-- **Every accepted job is settled at some time.** -/
theorem Fair.settles (fair : Fair settings schedule) {n c : Nat}
    (h : c ∈ (State.after settings schedule n).record.accepted) :
    ∃ m ≥ n, Settled (State.after settings schedule m) c := by
  obtain ⟨position, hlt, hc⟩ := List.mem_iff_getElem.mp h
  obtain ⟨m, hm, ht⟩ := fair.taken hlt
  have hl := ledger_after settings schedule m
  have taken : c ∈ (State.after settings schedule m).record.taken := by
    obtain ⟨later, e⟩ := (record_after settings schedule hm).1
    have hc' : (State.after settings schedule m).record.accepted[position]? = some c := by
      rw [← e, List.getElem?_append_left hlt, List.getElem?_eq_getElem hlt, hc]
    rw [hl.order, List.getElem?_append_left ht] at hc'
    exact List.mem_of_getElem? hc'
  have count := List.count_pos_iff.mpr taken
  rw [hl.taken, hl.handed] at count
  by_cases hu : 0 < (State.after settings schedule m).held .upcoming c
  · obtain ⟨w, hw⟩ := hasJob_of_held hu
    obtain ⟨l, hl, hs⟩ := fair.settles_job hw
    exact ⟨l, by omega, hs⟩
  by_cases hr : 0 < (State.after settings schedule m).held .running c
  · obtain ⟨w, hw⟩ := hasJob_of_held hr
    obtain ⟨l, hl, hs⟩ := fair.settles_job hw
    exact ⟨l, by omega, hs⟩
  have hended : c ∈ (State.after settings schedule m).record.endedCallers :=
    List.count_pos_iff.mp (by omega)
  by_cases hwait : ∃ k, (State.after settings schedule m).callers[c]? = some k ∧ k.phase = .waiting
  · obtain ⟨k, hk, hp⟩ := hwait
    obtain ⟨w, hw⟩ :=
      hasJob_of_held ((standing_after settings schedule m).1.undelivered c k hk hp hended)
    obtain ⟨l, hl, hs⟩ := fair.settles_job hw
    exact ⟨l, by omega, hs⟩
  · exact ⟨m, hm, hended, fun k hk hp => hwait ⟨k, hk, hp⟩⟩

end Jobs

/-! ## 2. The turns of a caller -/

/-- The steps a caller is away from its answer at most, not counting those of its job. -/
def CallerPhase.left : CallerPhase β → Nat
  | arrived => 8
  | checked => 7
  | cloned => 6
  | counted => 5
  | full => 4
  | uncounted => 3
  | rejected => 2
  | waiting => 2
  | cut => 1
  | expired _ => 1
  | answered _ => 0

theorem CallerMove.left {s : State α β} {p p' : CallerPhase β} {f : Counters → Counters}
    (h : CallerMove s p f p') : p'.left < p.left := by
  cases h <;> exact of_decide_eq_true rfl

/-- Only its own steps move a caller that does not wait. -/
theorem caller_stands {s s' : State α β} {a : Action α β} {i : Nat} {k : Caller α β}
    (he : Effect s a s') (ha : a.actor? ≠ some (.caller i)) (hk : s.callers[i]? = some k)
    (hp : k.phase ≠ .waiting) : s'.callers[i]? = some k := by
  have other {j : Nat} {g : Caller α β → Caller α β} (hj : i ≠ j) :
      (s.callers.modify j g)[i]? = some k := by
    rw [List.getElem?_modify_ne _ _ (Ne.symm hj), hk]
  cases he with
  | submit request limit =>
    exact (List.getElem?_append_left (List.getElem?_eq_some_iff.mp hk).1).trans hk
  | caller j k₀ f p hk₀ hm => exact other fun e => ha (e ▸ rfl)
  | expire j k₀ limit hk₀ hp₀ hl =>
    refine other fun e => hp ?_
    subst e
    exact Option.some.inj (hk.symm.trans hk₀) ▸ hp₀
  | accept j k₀ hk₀ hp₀ ha₀ hr => exact other fun e => ha (e ▸ rfl)
  | reply w job result hw =>
    by_cases hj : i = job.caller
    · subst hj
      show (s.callers.modify job.caller _)[job.caller]? = some k
      rw [List.getElem?_modify_eq, hk]
      obtain ⟨request, limit, phase⟩ := k
      cases phase with
      | waiting => exact absurd rfl hp
      | _ => rfl
    · exact other hj
  | _ => exact hk

/-- A caller that neither waits nor has its answer can go on. -/
theorem ready_of_caller {s : State α β} {i : Nat} {k : Caller α β} (hk : s.callers[i]? = some k)
    (hw : k.phase ≠ .waiting) (hl : 0 < k.phase.left) : s.Ready (.caller i) := by
  refine ⟨.caller i, rfl, ?_⟩
  obtain ⟨request, limit, phase⟩ := k
  simp only [State.step?, hk, Option.bind_some]
  cases phase with
  | waiting => exact absurd rfl hw
  | answered result => cases hl
  | _ => rfl

/-- Each step of a caller brings it nearer to its answer. -/
theorem caller_lower {s s' : State α β} {a : Action α β} {i : Nat} {k : Caller α β}
    (he : Effect s a s') (ha : a.actor? = some (.caller i)) (hk : s.callers[i]? = some k) :
    ∃ k', s'.callers[i]? = some k' ∧ k'.phase.left < k.phase.left := by
  have moved (p : CallerPhase β) : (s.setCaller i p).callers[i]? = some { k with phase := p } := by
    show (s.callers.modify i _)[i]? = _
    rw [List.getElem?_modify_eq, hk]
    rfl
  cases he with
  | caller j k₀ f p hk₀ hm =>
    cases ha
    obtain rfl := Option.some.inj (hk₀.symm.trans hk)
    exact ⟨_, moved p, hm.left⟩
  | accept j k₀ hk₀ hp ha₀ hr =>
    cases ha
    obtain rfl := Option.some.inj (hk₀.symm.trans hk)
    refine ⟨_, moved .waiting, ?_⟩
    rw [hp]
    exact of_decide_eq_true rfl
  | _ => cases ha

/-! ## 3. Answers -/

theorem answer?_eq_some {s : State α β} {c : Nat} {result : Except Error β} :
    s.answer? c = some result ↔
      ∃ k, s.callers[c]? = some k ∧ k.phase = .answered result := by
  unfold State.answer?
  constructor
  · intro h
    split at h
    · next hk => exact ⟨_, hk, Option.some.inj h ▸ rfl⟩
    · cases h
  · rintro ⟨⟨request, limit, phase⟩, hk, rfl⟩
    rw [hk]

/-- **An answer is final.** -/
theorem answer_kept {s s' : State α β} {a : Action α β} {c : Nat} {result : Except Error β}
    (he : Effect s a s') (h : s.answer? c = some result) : s'.answer? c = some result := by
  obtain ⟨k, hk, hp⟩ := answer?_eq_some.mp h
  refine answer?_eq_some.mpr ⟨k, ?_, hp⟩
  by_cases ha : a.actor? = some (.caller c)
  · obtain ⟨k', -, hlt⟩ := caller_lower he ha hk
    rw [hp] at hlt
    cases hlt
  · exact caller_stands he ha hk (by rw [hp]; nofun)

/-- Whether a caller gave up waiting, or was told so. -/
def CallerPhase.gaveUp : CallerPhase β → Bool
  | expired _ => true
  | answered (.error (.timeout _)) => true
  | _ => false

/-- The outcome of a job never says that the caller gave up. -/
theorem gaveUp_result (o : Outcome β) :
    (CallerPhase.answered o.result : CallerPhase β).gaveUp = false := by
  cases o <;> rfl

/-- No move of a caller on its own makes it give up. -/
theorem CallerMove.gaveUp {s : State α β} {p p' : CallerPhase β} {f : Counters → Counters}
    (h : CallerMove s p f p') (hp : p'.gaveUp = true) : p.gaveUp = true := by
  cases h with
  | timedOut limit => rfl
  | _ => cases hp

/-- **Who gave up did so itself.** -/
theorem gaveUp_step {s s' : State α β} {a : Action α β} {c : Nat} {k' : Caller α β}
    (hc : Carried s) (he : Effect s a s') (hk' : s'.callers[c]? = some k')
    (hp : k'.phase.gaveUp = true) :
    (∃ k, s.callers[c]? = some k ∧ k.phase.gaveUp = true) ∨ a = .expire c := by
  cases he with
  | submit request limit =>
    rcases getElem?_concat hk' with hk | ⟨-, rfl⟩
    · exact .inl ⟨k', hk, hp⟩
    · cases hp
  | caller i k f p hk hm =>
    rcases State.callers_setCaller hk' with ⟨rfl, k₀, hk₀, rfl⟩ | ⟨-, hk'⟩
    · exact .inl ⟨k, hk, hm.gaveUp hp⟩
    · exact .inl ⟨k', hk', hp⟩
  | expire i k limit hk hp₀ hl =>
    rcases State.callers_setCaller hk' with ⟨rfl, -⟩ | ⟨-, hk'⟩
    · exact .inr rfl
    · exact .inl ⟨k', hk', hp⟩
  | accept i k hk hp₀ ha hr =>
    rcases State.callers_setCaller hk' with ⟨rfl, k₀, hk₀, rfl⟩ | ⟨-, hk'⟩
    · cases hp
    · exact .inl ⟨k', hk', hp⟩
  | reply w job result hw =>
    rcases State.callers_reply hk' with ⟨hk', -⟩ | ⟨rfl, k₀, -, -, rfl⟩
    · exact .inl ⟨k', hk', hp⟩
    · obtain ⟨o, -, rfl⟩ := hc.booked w _ hw
      rw [gaveUp_result] at hp
      cases hp
  | _ => exact .inl ⟨k', hk', hp⟩

/-- Who waited and waits no more has its answer, or gives up. -/
theorem Stands.left_of_accepted {s : State α β} {c : Nat} {k : Caller α β} (h : Stands s c k)
    (ha : c ∈ s.record.accepted) (hw : k.phase ≠ .waiting) : k.phase.left ≤ 1 := by
  obtain ⟨request, limit, phase⟩ := k
  cases phase with
  | waiting => exact absurd rfl hw
  | expired limit => exact Nat.le_refl 1
  | answered result => exact Nat.zero_le 1
  | cut => exact Nat.le_refl 1
  | _ => exact absurd ha h

section Callers

variable {settings : Settings} {schedule : Nat → Action α β}

/-- An answer stays for good. -/
theorem answer_after {n m c : Nat} {result : Except Error β} (hnm : n ≤ m)
    (h : (State.after settings schedule n).answer? c = some result) :
    (State.after settings schedule m).answer? c = some result :=
  after_induction (P := fun s => s.answer? c = some result) hnm h fun _ ih he => answer_kept he ih

/-- Who arrived is there for good. -/
theorem callers_after (settings : Settings) (schedule : Nat → Action α β) {n m : Nat}
    (hnm : n ≤ m) :
    (State.after settings schedule n).callers.length ≤
      (State.after settings schedule m).callers.length := by
  refine after_induction (P := fun s => _ ≤ s.callers.length) hnm (Nat.le_refl _)
    fun {s s'} {a} _ ih he => Nat.le_trans ih ?_
  by_contra hlt
  obtain ⟨k, hk, -⟩ := caller_kept he (List.getElem?_eq_getElem (by omega :
    s'.callers.length < s.callers.length))
  exact Nat.lt_irrefl _ (List.getElem?_eq_some_iff.mp hk).1

theorem gaveUp_after {n c : Nat} {k : Caller α β}
    (hk : (State.after settings schedule n).callers[c]? = some k) (hp : k.phase.gaveUp = true) :
    ∃ l < n, schedule l = .expire c := by
  induction n generalizing k with
  | zero => cases hk
  | succ n ih =>
    rcases after_succ settings schedule n with he | ⟨-, e⟩
    · rcases gaveUp_step (standing_after settings schedule n).2 he hk hp with ⟨k₀, hk₀, hp₀⟩ | e
      · obtain ⟨l, hl, e⟩ := ih hk₀ hp₀
        exact ⟨l, by omega, e⟩
      · exact ⟨n, Nat.lt_succ_self n, e⟩
    · obtain ⟨l, hl, e⟩ := ih (e ▸ hk) hp
      exact ⟨l, by omega, e⟩

/-- A caller that does not move and does not wait stands where it stood. -/
theorem caller_stays {i n : Nat} {k : Caller α β}
    (hk : (State.after settings schedule n).callers[i]? = some k) (hp : k.phase ≠ .waiting)
    (h : ¬ Moves settings schedule (.caller i) n) :
    (State.after settings schedule (n + 1)).callers[i]? = some k := by
  rcases after_succ settings schedule n with he | ⟨-, e⟩
  · by_cases ha : (schedule n).actor? = some (.caller i)
    · cases hs : (State.after settings schedule n).step? (schedule n) with
      | none =>
        rw [State.after, hs]
        exact hk
      | some s => exact absurd ⟨ha, by rw [hs]; rfl⟩ h
    · exact caller_stands he ha hk hp
  · rw [e]
    exact hk

/-- **Every caller is answered at some time.** -/
theorem Fair.answers (fair : Fair settings schedule) {n c : Nat} {k : Caller α β}
    (hk : (State.after settings schedule n).callers[c]? = some k) :
    ∃ m ≥ n, ∃ result, (State.after settings schedule m).answer? c = some result := by
  induction hr : k.phase.left using Nat.strong_induction_on generalizing n k with
  | h r ih =>
    by_cases hw : k.phase = .waiting
    · have accepted : c ∈ (State.after settings schedule n).record.accepted := by
        have := (standing_after settings schedule n).1.stands c k hk
        rwa [Stands, hw] at this
      obtain ⟨m, hm, settled⟩ := fair.settles accepted
      have hlt := Nat.lt_of_lt_of_le (List.getElem?_eq_some_iff.mp hk).1
        (callers_after settings schedule hm)
      have hk' := List.getElem?_eq_getElem hlt
      have stands := (standing_after settings schedule m).1.stands c _ hk'
      have hleft := stands.left_of_accepted
        ((record_after settings schedule hm).1.subset accepted) (settled.answered _ hk')
      obtain ⟨l, hl, h⟩ := ih _ (by rw [← hr, hw]; exact Nat.lt_succ_of_le hleft) hk' rfl
      exact ⟨l, by omega, h⟩
    · by_cases hl : 0 < k.phase.left
      · obtain ⟨m, hm, hk', hx⟩ := fair.turn
          (P := fun m => (State.after settings schedule m).callers[c]? = some k) hk
          (fun m _ h => ready_of_caller h hw hl) (fun m _ h hx => caller_stays h hw hx)
        obtain ⟨k', hk'', hlt⟩ := caller_lower hx.effect hx.1 hk'
        obtain ⟨l, hl', h⟩ := ih _ (hr ▸ hlt) hk'' rfl
        exact ⟨l, by omega, h⟩
      · cases e : k.phase with
        | answered result => exact ⟨n, Nat.le_refl n, result, answer?_eq_some.mpr ⟨k, hk, e⟩⟩
        | _ => rw [e] at hl; exact absurd (of_decide_eq_true rfl) hl

end Callers

end ScriptGateway.Pool
