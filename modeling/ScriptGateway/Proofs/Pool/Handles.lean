import ScriptGateway.Proofs.Pool.Answers
/-!
# Who waits for the workers

The handles of the workers are there once. The closer that finds them waits for all workers; a
closer that comes later finds none, and is done at once, whether the workers are or not.

* `Handles`: either nobody took the handles yet, or one closer did and waits, or waited, for all.
* `Finished`: every worker exited and every accepted job ended; the first implies the second.
* `finished_iff_nobodyWaits`: for a closer that is done, the workers are just if no other closer
  still waits for one.
-/

namespace ScriptGateway.Pool

variable {α β : Type}

/-! ## 1. Workers that exited -/

/-- Every worker exited. -/
def AllExited (s : State α β) : Prop :=
  ∀ (w : Nat) (p : WorkerPhase α β), s.workers[w]? = some p → p = .exited

/-- Workers that exited do nothing any more. -/
theorem AllExited.step {s s' : State α β} {a : Action α β} (h : AllExited s)
    (he : Effect s a s') : AllExited s' := by
  cases he with
  | worker w p q f hw hm =>
    obtain rfl := h w p hw
    cases hm
  | take w job rest hw hq => cases h w _ hw
  | hand w job hw => cases h w _ hw
  | finish w job outcome hw => cases h w _ hw
  | reply w job result hw => cases h w _ hw
  | exit w hw hq hs => cases h w _ hw
  | _ => exact h

/-- A closer may go on once the workers it waits for exited. -/
theorem all_isExited_iff {s : State α β} {w : Nat} :
    (s.workers[w]?).all WorkerPhase.isExited = true ↔
      ∀ p, s.workers[w]? = some p → p = .exited := by
  cases s.workers[w]? with
  | none => exact ⟨fun _ => nofun, fun _ => rfl⟩
  | some p =>
    constructor
    · rintro h _ ⟨⟩
      cases p with
      | exited => rfl
      | _ => cases h
    · intro h
      obtain rfl := h p rfl
      rfl

/-- Every worker exited, and every accepted job ended. -/
structure Finished (s : State α β) : Prop where
  exited : AllExited s
  ended : s.record.accepted ⊆ s.record.endedCallers

/-- Workers that exited have no job. -/
theorem AllExited.held {s : State α β} (h : AllExited s) (stage : Stage) (c : Nat) :
    s.held stage c = 0 := by
  refine List.countP_eq_zero.mpr ?_
  intro p hp
  obtain ⟨w, hw⟩ := List.mem_iff_getElem?.mp hp
  obtain rfl := h w p hw
  exact Bool.false_ne_true

/-- **Once every worker exited, every accepted job ended.** -/
theorem finished_of_allExited {settings : Settings} {s : State α β} (hl : Ledger s)
    (hs : Sealed settings s) (h : AllExited s) : Finished s := by
  refine ⟨h, fun c hc => ?_⟩
  have h0 : 0 < s.workers.length := hs.workers.symm ▸ settings.workers_pos
  have first := List.getElem?_eq_getElem h0
  have empty := (hs.exited 0 (h 0 _ first ▸ first)).1
  rw [hl.order, empty, List.map_nil, List.append_nil] at hc
  have count := List.count_pos_iff.mpr hc
  rw [hl.taken, hl.handed, h.held, h.held] at count
  exact List.count_pos_iff.mp (by omega)

/-! ## 2. The handles -/

/-- A closer that has not looked for the workers yet. -/
def CloserPhase.early : CloserPhase → Bool
  | arrived => true
  | first => true
  | closed => true
  | _ => false

/-- **The handles of the workers**: all there, or taken by one closer. -/
inductive Handles (s : State α β) : Prop where
  | there (hh : s.handles = List.range s.settings.workers)
      (hc : ∀ (i : Nat) (p : CloserPhase), s.closers[i]? = some p → p.early = true)
  | taken (i : Nat) (hh : s.handles = [])
      (hi : s.closers[i]? = some (.joining (List.range s.settings.workers)) ∨
        (s.closers[i]? = some .joined ∧ AllExited s))

theorem handles_start (settings : Settings) : Handles (.new settings : State α β) :=
  .there rfl nofun

/-- The phase of a closer after one of them moved. -/
theorem closers_setCloser_cases {s : State α β} {i j : Nat} {p q : CloserPhase}
    (h : (s.setCloser i q).closers[j]? = some p) : p = q ∨ s.closers[j]? = some p := by
  by_cases hj : j = i
  · subst hj
    rw [State.setCloser, List.getElem?_set_self'] at h
    obtain ⟨_, -, e⟩ := Option.map_eq_some_iff.mp h
    exact .inl e.symm
  · rw [State.setCloser, List.getElem?_set_ne (Ne.symm hj)] at h
    exact .inr h

theorem closers_setCloser_ne {s : State α β} {i j : Nat} {p q r : CloserPhase}
    (hj : s.closers[j]? = some p) (hi : s.closers[i]? = some r) (hne : p ≠ r) :
    (s.setCloser i q).closers[j]? = some p := by
  have apart : i ≠ j := fun e => hne (Option.some.inj (hj.symm.trans (e ▸ hi)))
  exact (List.getElem?_set_ne apart).trans hj

/-- A closer that moves before it looks for the workers leaves the handles to others. -/
theorem Handles.move {s s' : State α β} {j : Nat} {p q : CloserPhase} (h : Handles s)
    (hj : s.closers[j]? = some p) (hp : p.early = true) (hq : q.early = true)
    (hh : s'.handles = s.handles) (hc : s'.closers = (s.setCloser j q).closers)
    (hs : s'.settings = s.settings) (hw : s'.workers = s.workers) : Handles s' := by
  cases h with
  | there hh₀ hc₀ =>
    refine .there (hh.trans (hs ▸ hh₀)) ?_
    intro i r hi
    rw [hc] at hi
    rcases closers_setCloser_cases hi with rfl | hi
    · exact hq
    · exact hc₀ i r hi
  | taken i hh₀ hi =>
    have old {r : CloserPhase} (hi : s.closers[i]? = some r) (hr : r.early = false) :
        s'.closers[i]? = some r := by
      rw [hc]
      refine closers_setCloser_ne hi hj ?_
      intro e
      rw [e, hp] at hr
      cases hr
    refine .taken i (hh.trans hh₀) (hi.imp (fun hi => hs ▸ old hi rfl) fun hi => ⟨old hi.1 rfl, ?_⟩)
    intro w r hr
    exact hi.2 w r (hw ▸ hr)

theorem handles_step {settings : Settings} {s s' : State α β} {a : Action α β}
    (hs : Sealed settings s) (h : Handles s) (he : Effect s a s') : Handles s' := by
  -- a step that moves no closer keeps what every closer found
  have same (hh : s'.handles = s.handles) (hc : s'.closers = s.closers)
      (hs : s'.settings = s.settings) : Handles s' := by
    cases h with
    | there hh₀ hc₀ => exact .there (hh.trans (hs ▸ hh₀)) (hc ▸ hc₀)
    | taken i hh₀ hi =>
      refine .taken i (hh.trans hh₀) (hi.imp (fun hi => ?_) fun hi => ⟨?_, hi.2.step he⟩)
      · rw [hc, hs]
        exact hi
      · rw [hc]
        exact hi.1
  cases he with
  | close =>
    cases h with
    | there hh hc =>
      refine .there hh ?_
      intro i p hi
      rcases getElem?_concat hi with hi | ⟨-, rfl⟩
      · exact hc i p hi
      · rfl
    | taken i hh hi =>
      have old {p : CloserPhase} (hp : s.closers[i]? = some p) :
          (s.closers ++ [.arrived])[i]? = some p :=
        (List.getElem?_append_left (List.getElem?_eq_some_iff.mp hp).1).trans hp
      exact .taken i hh (hi.imp old fun hi => ⟨old hi.1, hi.2⟩)
  | flag j hj hf => exact h.move (q := .first) hj rfl rfl rfl rfl rfl rfl
  | again j hj hf => exact h.move (q := .closed) hj rfl rfl rfl rfl rfl rfl
  | takeSender j hj => exact h.move (q := .closed) hj rfl rfl rfl rfl rfl rfl
  | collect j hj =>
    cases h with
    | there hh hc =>
      refine .taken j rfl (.inl ?_)
      show (s.closers.set j (.joining s.handles))[j]? = _
      rw [hh]
      exact List.getElem?_set_self (List.getElem?_eq_some_iff.mp hj).1
    | taken i hh hi =>
      exact .taken i rfl (hi.imp (fun hi => closers_setCloser_ne hi hj nofun)
        fun hi => ⟨closers_setCloser_ne hi.1 hj nofun, hi.2⟩)
  | join j workers hj hw =>
    cases h with
    | there hh hc => cases hc j _ hj
    | taken i hh hi =>
      by_cases hij : i = j
      · subst hij
        have moved : (s.setCloser i .joined).closers[i]? = some .joined :=
          List.getElem?_set_self (List.getElem?_eq_some_iff.mp hj).1
        refine .taken i hh (.inr ⟨moved, ?_⟩)
        rcases hi with hi | ⟨-, hi⟩
        · -- it is the closer that waited for all workers
          obtain rfl : workers = List.range s.settings.workers :=
            CloserPhase.joining.inj (Option.some.inj (hj.symm.trans hi))
          intro v p hv
          have hlt : v < s.settings.workers := by
            rw [hs.sameSettings, ← hs.workers]
            exact (List.getElem?_eq_some_iff.mp hv).1
          exact all_isExited_iff.mp (hw v (List.mem_range.mpr hlt)) p hv
        · exact hi
      · have old {p : CloserPhase} (hp : s.closers[i]? = some p) :
            (s.setCloser j .joined).closers[i]? = some p :=
          (List.getElem?_set_ne (Ne.symm hij)).trans hp
        exact .taken i hh (hi.imp old fun hi => ⟨old hi.1, hi.2⟩)
  | _ => exact same rfl rfl rfl

theorem handles_of_reachable {settings : Settings} {s : State α β} (h : s.Reachable settings) :
    Handles s :=
  reachable_induction (handles_start settings)
    (fun hr ih he => handles_step (sealed_of_reachable hr) ih he) h

/-! ## 3. Closers that are done -/

/-- No closer waits for a worker that has not exited. -/
def NobodyWaits (s : State α β) : Prop :=
  ∀ (i : Nat) (workers : List Nat), s.closers[i]? = some (.joining workers) →
    ∀ w ∈ workers, ∀ p, s.workers[w]? = some p → p = .exited

/-- **When a closer that is done can rely on it**: the workers exited, and the accepted jobs ended,
just if no closer still waits for a worker. -/
theorem finished_iff_nobodyWaits {settings : Settings} {s : State α β} (h : s.Reachable settings)
    {i : Nat} (hi : s.closers[i]? = some .joined) : Finished s ↔ NobodyWaits s := by
  have sealed := sealed_of_reachable h
  refine ⟨fun hf _ _ _ w _ p hw => hf.exited w p hw, fun hn => ?_⟩
  refine finished_of_allExited (ledger_of_reachable h) sealed ?_
  cases handles_of_reachable h with
  | there hh hc => cases hc i _ hi
  | taken j hh hj =>
    rcases hj with hj | ⟨-, hj⟩
    · intro w p hw
      have hlt : w < s.settings.workers := by
        rw [sealed.sameSettings, ← sealed.workers]
        exact (List.getElem?_eq_some_iff.mp hw).1
      exact hn j _ hj w (List.mem_range.mpr hlt) p hw
    · exact hj

end ScriptGateway.Pool
