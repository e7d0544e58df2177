import ScriptGateway.Proofs.Engine.Activation
import ScriptGateway.Proofs.Engine.Calls
import ScriptGateway.Proofs.Steps
/-!
# One call to a thread

Bindings know their thread and not the call that made them, and a call releases its thread by that
name alone. Still the bindings are at every moment just the threads that calls hold: only a call
that finds its thread free binds it, and only a call that bound a thread ever releases it.

* `Calls.held`: the thread that a call holds, with its script.
* `Change`: what a step does to the threads that are held, and to the bindings.
* `Exclusive`: the bindings are what is held, and no thread is held twice.
* `exclusive`: the same of every state that calls lead to; who is refused, and what is left.
-/

namespace ScriptGateway.Engine

open Script (Context Host)

variable {σ : Type}

/-! ## 1. What is held -/

/-- The thread that a call holds, with its script. -/
def Call.held (c : Call) : Option (Int32 × String) :=
  if c.isHolding then some (c.context.thread, c.script) else none

theorem Call.held_arrived {c : Call} (hp : c.phase = .arrived) : c.held = none := by
  simp [held, isHolding, hp]

theorem Call.Continues.held_eq {c c' : Call} (h : c.Continues c') : c'.held = c.held := by
  unfold Call.held
  rw [h.held, h.holds, h.script, h.thread]

/-- The outcome of a call that ended. -/
def Call.outcome? (c : Call) : Option Bridge.Outcome :=
  match c.phase with
  | .ended outcome => some outcome
  | _ => none

namespace Calls

/-- The thread that a call holds, with its script. -/
def held (m : Calls σ) (i : Nat) : Option (Int32 × String) :=
  m.calls[i]?.bind Call.held

/-- The outcome of a call that ended. -/
def outcome? (m : Calls σ) (i : Nat) : Option Bridge.Outcome :=
  m.calls[i]?.bind Call.outcome?

theorem held_of_call {m : Calls σ} {i : Nat} {c : Call} (hc : m.calls[i]? = some c) :
    m.held i = c.held := by
  unfold held
  rw [hc, Option.bind_some]

theorem took_self {m : Calls σ} {i : Nat} {c : Call} (hc : m.calls[i]? = some c)
    (turn : Call.Turn σ) : (m.took i turn).calls[i]? = some turn.call := by
  obtain ⟨hi, -⟩ := List.getElem?_eq_some_iff.mp hc
  exact List.getElem?_set_self hi

theorem took_ne (m : Calls σ) {i j : Nat} (turn : Call.Turn σ) (hj : i ≠ j) :
    (m.took i turn).calls[j]? = m.calls[j]? :=
  List.getElem?_set_ne hj

/-- **What a step does to what is held**: nothing, or one call takes a thread that is free, or
one call gives up the thread that it holds. -/
inductive Change (m m' : Calls σ) : Prop where
  | none (hb : m'.bridge = m.bridge) (hh : ∀ j, m'.held j = m.held j)
  | bind (i : Nat) (thread : Int32) (script : String)
      (free : m.bridge.active.isActive thread = false)
      (hb : m'.bridge.active = ⟨Activation.insert thread script m.bridge.active.bindings⟩)
      (before : m.held i = .none) (after : m'.held i = some (thread, script))
      (others : ∀ j, i ≠ j → m'.held j = m.held j)
  | release (i : Nat) (thread : Int32) (script : String)
      (hb : m'.bridge.active = m.bridge.active.release thread)
      (before : m.held i = some (thread, script)) (after : m'.held i = .none)
      (others : ∀ j, i ≠ j → m'.held j = m.held j)

theorem held_took_ne (m : Calls σ) (i : Nat) (turn : Call.Turn σ) (j : Nat) (hj : i ≠ j) :
    (m.took i turn).held j = m.held j := by
  unfold held
  rw [took_ne m turn hj]

/-- A step of a call that holds afterwards what it held before. -/
theorem held_took_of {m : Calls σ} {i : Nat} {c : Call} {turn : Call.Turn σ}
    (hc : m.calls[i]? = some c) (hh : turn.call.held = c.held) (j : Nat) :
    (m.took i turn).held j = m.held j := by
  by_cases hj : i = j
  · subst hj
    rw [held_of_call hc, held_of_call (took_self hc turn), hh]
  · exact held_took_ne m i turn j hj

/-- A call that comes in holds nothing. -/
theorem held_arrive (m : Calls σ) (context : Context) (script : String)
    (program : Script.Program) (j : Nat) :
    ({ m with calls := m.calls ++ [.arriving context script program] } : Calls σ).held j =
      m.held j := by
  unfold held
  rcases Nat.lt_trichotomy j m.calls.length with hj | rfl | hj
  · rw [List.getElem?_append_left hj]
  · rw [List.getElem?_concat_length, List.getElem?_eq_none (Nat.le_refl _)]
    rfl
  · rw [List.getElem?_eq_none (by simp; omega), List.getElem?_eq_none (by omega)]

theorem change_of_effect {m m' : Calls σ} {a : Action} (he : Effect m a m') : Change m m' := by
  cases he with
  | arrive context script program => exact .none rfl (held_arrive m context script program)
  | move _ i c turn _ hc hm =>
    have before := held_of_call hc
    have after := held_of_call (took_self hc turn)
    have others := held_took_ne m i turn
    cases hm with
    | refuse e hp he => exact .none rfl (held_took_of hc (Call.held_arrived hp).symm)
    | bind hp hs hf =>
      have free := before.trans (Call.held_arrived hp)
      exact .bind i c.context.thread c.script hf rfl free after others
    | go host' c' hc' => exact .none rfl (held_took_of hc hc'.held_eq)
    | release outcome hp =>
      refine .release i c.context.thread c.script rfl ?_ after others
      rw [before]
      simp [Call.held, Call.isHolding, hp]

/-! ## 2. What is bound is what is held -/

/-- **The bindings are the threads that calls hold**, in order, and no thread is held twice. -/
structure Exclusive (m : Calls σ) : Prop where
  bindings : ∀ b, b ∈ m.bridge.active.bindings ↔ ∃ i, m.held i = some b
  alone : ∀ {i j : Nat} {thread : Int32} {s s' : String}, m.held i = some (thread, s) →
    m.held j = some (thread, s') → i = j
  sorted : m.bridge.active.Sorted

theorem Exclusive.isActive_iff {m : Calls σ} (hx : Exclusive m) (thread : Int32) :
    m.bridge.active.isActive thread = true ↔ ∃ i s, m.held i = some (thread, s) := by
  rw [Activation.isActive_iff]
  constructor
  · rintro ⟨s, hb⟩
    obtain ⟨i, hi⟩ := (hx.bindings _).mp hb
    exact ⟨i, s, hi⟩
  · rintro ⟨i, s, hi⟩
    exact ⟨s, (hx.bindings _).mpr ⟨i, hi⟩⟩

theorem exclusive_new (backend : Backend) (host : σ) : Exclusive (new backend host) where
  bindings b := by
    constructor
    · exact fun hb => absurd hb List.not_mem_nil
    · rintro ⟨i, hi⟩
      cases hi
  alone hi := by cases hi
  sorted := List.Pairwise.nil

/-- **Every step keeps it.** -/
theorem exclusive_change {m m' : Calls σ} (hx : Exclusive m) (hc : Change m m') :
    Exclusive m' := by
  cases hc with
  | none hb hh =>
    refine ⟨fun b => ?_, fun {i j thread s s'} hi hj => ?_, ?_⟩
    · rw [hb, hx.bindings]
      simp only [hh]
    · rw [hh] at hi hj
      exact hx.alone hi hj
    · rw [hb]
      exact hx.sorted
  | bind k thread script free hb before after others =>
    -- no call holds the thread, or it would be bound
    have unheld (i : Nat) (s : String) : m.held i ≠ some (thread, s) := fun hi =>
      Bool.false_ne_true (free.symm.trans ((hx.isActive_iff thread).mpr ⟨i, s, hi⟩))
    have held_iff (i : Nat) (b : Int32 × String) :
        m'.held i = some b ↔ i = k ∧ b = (thread, script) ∨ m.held i = some b := by
      by_cases hi : k = i
      · subst hi
        rw [after, before]
        simp [eq_comm]
      · rw [others i hi]
        simp [Ne.symm hi]
    refine ⟨fun b => ?_, fun {i j t s s'} hi hj => ?_, ?_⟩
    · rw [hb]
      simp only [Activation.mem_insert, hx.bindings, held_iff]
      constructor
      · rintro (rfl | ⟨i, hi⟩)
        · exact ⟨k, .inl ⟨rfl, rfl⟩⟩
        · exact ⟨i, .inr hi⟩
      · rintro ⟨i, ⟨-, rfl⟩ | hi⟩
        · exact .inl rfl
        · exact .inr ⟨i, hi⟩
    · rcases (held_iff i _).mp hi with ⟨rfl, hti⟩ | hi <;>
        rcases (held_iff j _).mp hj with ⟨rfl, htj⟩ | hj
      · rfl
      · obtain ⟨rfl, -⟩ := Prod.mk.inj hti
        exact absurd hj (unheld j _)
      · obtain ⟨rfl, -⟩ := Prod.mk.inj htj
        exact absurd hi (unheld i _)
      · exact hx.alone hi hj
    · rw [hb]
      exact Activation.sorted_insert script hx.sorted free
  | release k thread script hb before after others =>
    -- the binding of the thread is that of the call which gives it up
    have held_iff (i : Nat) (b : Int32 × String) :
        m'.held i = some b ↔ m.held i = some b ∧ b.1 ≠ thread := by
      by_cases hi : k = i
      · subst hi
        rw [after, before]
        constructor
        · exact nofun
        · rintro ⟨same, hn⟩
          obtain rfl := Option.some.inj same
          exact absurd rfl hn
      · rw [others i hi]
        constructor
        · intro holds
          refine ⟨holds, ?_⟩
          rintro rfl
          exact hi (hx.alone before holds)
        · exact And.left
    refine ⟨fun b => ?_, fun {i j t s s'} hi hj => ?_, ?_⟩
    · rw [hb]
      simp only [Activation.mem_release, hx.bindings, held_iff]
      constructor
      · rintro ⟨⟨i, hi⟩, hn⟩
        exact ⟨i, hi, hn⟩
      · rintro ⟨i, hi, hn⟩
        exact ⟨⟨i, hi⟩, hn⟩
    · exact hx.alone ((held_iff i _).mp hi).1 ((held_iff j _).mp hj).1
    · rw [hb]
      exact Activation.sorted_release hx.sorted thread

theorem exclusive_of_reachable {h : Host σ} {backend : Backend} {host : σ} {m : Calls σ}
    (hr : Reachable h (new backend host) m) : Exclusive m :=
  reachable_induction (exclusive_new backend host)
    (fun hx he => exclusive_change hx (change_of_effect he)) hr

/-! ## 3. Who is refused, and what is left -/

theorem outcome_of_call {m : Calls σ} {i : Nat} {c : Call} (hc : m.calls[i]? = some c) :
    m.outcome? i = c.outcome? := by
  unfold outcome?
  rw [hc, Option.bind_some]

theorem held_arrived {m : Calls σ} {i : Nat} {c : Call} (hc : m.calls[i]? = some c)
    (hp : c.phase = .arrived) : m.held i = none :=
  (held_of_call hc).trans (Call.held_arrived hp)

/-- **A call that comes in finds its thread busy just if another call holds it**, and otherwise
binds it. -/
theorem bind_iff {m m' : Calls σ} (hx : Exclusive m) {i : Nat} {c : Call}
    (hc : m.calls[i]? = some c) (hp : c.phase = .arrived) (he : Effect m (.advance i) m') :
    (m'.outcome? i = some (.refused (.threadBusy c.context.thread)) ↔
      c.script ≠ "" ∧ ∃ j, j ≠ i ∧ ∃ s, m.held j = some (c.context.thread, s)) ∧
    (m'.held i = some (c.context.thread, c.script) ↔
      c.script ≠ "" ∧ ∀ j s, m.held j ≠ some (c.context.thread, s)) := by
  have other : m.bridge.active.isActive c.context.thread = true ↔
      ∃ j, j ≠ i ∧ ∃ s, m.held j = some (c.context.thread, s) := by
    rw [hx.isActive_iff]
    constructor
    · rintro ⟨j, s, hj⟩
      refine ⟨j, ?_, s, hj⟩
      rintro rfl
      cases (held_arrived hc hp).symm.trans hj
    · rintro ⟨j, -, s, hj⟩
      exact ⟨j, s, hj⟩
  have free : (∀ j s, m.held j ≠ some (c.context.thread, s)) ↔
      ¬ m.bridge.active.isActive c.context.thread = true := by
    rw [hx.isActive_iff]
    simp only [not_exists, ne_eq]
  rw [← other, free]
  cases he with
  | move _ k d turn ha hd hm =>
    obtain rfl := Option.some.inj ha
    obtain rfl := Option.some.inj (hc.symm.trans hd)
    rw [outcome_of_call (took_self hc turn), held_of_call (took_self hc turn)]
    cases hm with
    | refuse e _ he =>
      rcases he with ⟨hs, rfl⟩ | ⟨hs, active, rfl⟩
      · simp [Call.refuse, Call.outcome?, Call.held, Call.isHolding, hs]
        exact nofun
      · simp [Call.refuse, Call.outcome?, Call.held, Call.isHolding, hs, active]
    | bind _ hs hf =>
      simp [Call.opened, Call.outcome?, Call.held, Call.isHolding, hs, hf, Context.resetOutput]
    | go host' c' hc' =>
      have held := hc'.held
      simp [Call.isHolding, hp] at held
    | release outcome hl => cases hp.symm.trans hl

/-- No call that has its outcome was refused. -/
def Unrefused (m : Calls σ) : Prop :=
  ∀ (i : Nat) (c : Call) (outcome : Bridge.Outcome), m.calls[i]? = some c →
    c.phase = .leaving outcome → ∀ e, outcome ≠ .refused e

theorem unrefused_step {m m' : Calls σ} {a : Action} (hu : Unrefused m) (he : Effect m a m') :
    Unrefused m' := by
  intro i d outcome hd hl
  cases he with
  | arrive context script program =>
    rcases List.mem_append.mp (List.mem_of_getElem? hd) with hm | hm
    · obtain ⟨k, hk⟩ := List.mem_iff_getElem?.mp hm
      exact hu k d outcome hk hl
    · obtain rfl := List.mem_singleton.mp hm
      cases hl
  | move _ k c turn _ hc hm =>
    by_cases hk : k = i
    · subst hk
      obtain rfl := Option.some.inj ((took_self hc turn).symm.trans hd)
      cases hm with
      | refuse e _ _ => cases hl
      | bind _ _ _ => cases hl
      | go host' c' hc' => exact hc'.unrefused outcome hl
      | release outcome' _ => cases hl
    · rw [took_ne m turn hk] at hd
      exact hu i d outcome hd hl

theorem outcome?_of_isHolding {c : Call} (h : c.isHolding = true) : c.outcome? = none := by
  unfold Call.isHolding at h
  unfold Call.outcome?
  cases hp : c.phase with
  | ended outcome => simp [hp] at h
  | _ => rfl

/-- **A call that is refused leaves the bridge and what is held as they are.** -/
theorem refused_step {m m' : Calls σ} {a : Action} (hu : Unrefused m) (he : Effect m a m')
    {i : Nat} {e : Error} (after : m'.outcome? i = some (.refused e))
    (before : m.outcome? i ≠ some (.refused e)) :
    m'.bridge = m.bridge ∧ ∀ j, m'.held j = m.held j := by
  cases he with
  | arrive context script program => exact ⟨rfl, held_arrive m context script program⟩
  | move _ k c turn _ hc hm =>
    by_cases hk : k = i
    · subst hk
      rw [outcome_of_call (took_self hc turn)] at after
      cases hm with
      | refuse e' hp _ => exact ⟨rfl, held_took_of hc (Call.held_arrived hp).symm⟩
      | bind _ _ _ => cases after
      | go host' c' hc' => cases (outcome?_of_isHolding hc'.holds).symm.trans after
      | release outcome hp =>
        obtain rfl := Option.some.inj after
        exact absurd rfl (hu k c _ hc hp e)
    · refine absurd ?_ before
      unfold outcome? at after ⊢
      rwa [took_ne m turn hk] at after

/-- **What a call holds it holds until it releases it itself**, with its outcome. -/
theorem held_step {m m' : Calls σ} {a : Action} (he : Effect m a m') {j : Nat}
    {b : Int32 × String} (hj : m.held j = some b) :
    m'.held j = some b ∨ a.call? = some j ∧ ∃ c outcome, m.calls[j]? = some c ∧
      c.phase = .leaving outcome := by
  cases he with
  | arrive context script program =>
    rw [held_arrive]
    exact .inl hj
  | move _ k c turn ha hc hm =>
    by_cases hk : k = j
    · subst hk
      cases hm with
      | refuse e hp _ => cases (held_arrived hc hp).symm.trans hj
      | bind hp _ _ => cases (held_arrived hc hp).symm.trans hj
      | go host' c' hc' => exact .inl ((held_took_of hc hc'.held_eq k).trans hj)
      | release outcome hp => exact .inr ⟨ha, c, outcome, hc, hp⟩
    · rw [held_took_ne m k turn j hk]
      exact .inl hj

theorem unrefused_of_reachable {h : Host σ} {backend : Backend} {host : σ} {m : Calls σ}
    (hr : Reachable h (new backend host) m) : Unrefused m :=
  reachable_induction (fun i c outcome hc => by cases hc) unrefused_step hr

/-- A thread that is held is held by a call that has not ended. -/
theorem not_ended_of_held {m : Calls σ} {i : Nat} {b : Int32 × String}
    (hi : m.held i = some b) : ∃ c ∈ m.calls, ∀ outcome, c.phase ≠ .ended outcome := by
  obtain ⟨c, hc, hheld⟩ := Option.bind_eq_some_iff.mp hi
  refine ⟨c, List.mem_of_getElem? hc, fun outcome hp => ?_⟩
  simp [Call.held, Call.isHolding, hp] at hheld

/-- **At every moment each thread is bound by one call at most**, whatever calls are made and
however their steps interleave. -/
theorem exclusive (h : Host σ) (backend : Backend) (host : σ) {m : Calls σ}
    (hr : Reachable h (new backend host) m) :
    (∀ i j thread s s', m.held i = some (thread, s) → m.held j = some (thread, s') → i = j) ∧
    (∀ thread, m.bridge.active.isActive thread = true ↔ ∃ i s, m.held i = some (thread, s)) ∧
    m.bridge.active.Sorted ∧
    (∀ b, b ∈ m.bridge.active.bindings ↔ ∃ i, m.held i = some b) ∧
    (∀ i c m', m.calls[i]? = some c → c.phase = .arrived → m.step? h (.advance i) = some m' →
      (m'.outcome? i = some (.refused (.threadBusy c.context.thread)) ↔
        c.script ≠ "" ∧ ∃ j, j ≠ i ∧ ∃ s, m.held j = some (c.context.thread, s)) ∧
      (m'.held i = some (c.context.thread, c.script) ↔
        c.script ≠ "" ∧ ∀ j s, m.held j ≠ some (c.context.thread, s))) ∧
    (∀ a m' i e, m.step? h a = some m' → m'.outcome? i = some (.refused e) →
      m.outcome? i ≠ some (.refused e) →
        m'.bridge = m.bridge ∧ ∀ j, m'.held j = m.held j) ∧
    (∀ a m' j b, m.step? h a = some m' → m.held j = some b →
      m'.held j = some b ∨ a.call? = some j ∧ ∃ c outcome, m.calls[j]? = some c ∧
        c.phase = .leaving outcome) ∧
    ((∀ c ∈ m.calls, ∃ outcome, c.phase = .ended outcome) → m.bridge.active.bindings = []) := by
  have hx := exclusive_of_reachable hr
  refine ⟨fun i j thread s s' => hx.alone, hx.isActive_iff, hx.sorted, hx.bindings,
    ?_, ?_, ?_, ?_⟩
  · intro i c m' hc hp hs
    exact bind_iff hx hc hp (effect_of_step hs)
  · intro a m' i e hs
    exact refused_step (unrefused_of_reachable hr) (effect_of_step hs)
  · intro a m' j b hs
    exact held_step (effect_of_step hs)
  · intro ended
    rw [List.eq_nil_iff_forall_not_mem]
    intro b hb
    obtain ⟨i, hi⟩ := (hx.bindings b).mp hb
    obtain ⟨c, hc, unended⟩ := not_ended_of_held hi
    obtain ⟨outcome, hp⟩ := ended c hc
    exact unended outcome hp

theorem reachable_play {h : Host σ} {first m : Calls σ} (hr : Reachable h first m)
    (actions : List Action) : Reachable h first (Steps.play (step? h) m actions) :=
  Steps.play_keeps (fun a hr hs => .step hr a hs) hr actions

/-- A context of a thread. -/
def contextOf (thread : Int32) : Context :=
  { Context.new with thread }

/-- A script that panics and an empty one on one thread, then a busy one, and one on a thread
with a lower index. -/
def sharing : List Action :=
  [.arrive (contextOf 4) "a" (.panic "lost"), .advance 0,
    .arrive (contextOf 4) "" .done, .advance 1,
    .arrive (contextOf 4) "b" .done, .advance 2,
    .arrive (contextOf (-3)) "c" .done, .advance 3]

/-- What is left of them: the two that hold a thread come to their ends. -/
def leavingAll : List Action :=
  [.advance 0, .advance 0, .advance 0, .unwind 3 "host", .advance 3]

/-- While two calls hold their threads, and once all have ended. -/
def sharedThread : Calls Unit :=
  Steps.play (step? Host.silent) (new (.interpreter "test") ()) sharing

theorem ended_of_outcome {c : Call} (h : c.outcome?.isSome = true) :
    ∃ outcome, c.phase = .ended outcome := by
  unfold Call.outcome? at h
  split at h
  · next outcome hp => exact ⟨outcome, hp⟩
  · cases h

theorem exclusive_sharedThread :
    sharedThread.bridge.active.bindings = [(-3, "c"), (4, "a")] ∧
      (∃ i, sharedThread.held i = some (4, "a")) ∧
      sharedThread.outcome? 2 = some (.refused (.threadBusy 4)) ∧
      (Steps.play (step? Host.silent) sharedThread leavingAll).bridge.active.bindings = [] := by
  have reached : Reachable Host.silent (new (.interpreter "test") ()) sharedThread :=
    reachable_play .start sharing
  have bound : sharedThread.bridge.active.bindings = [(-3, "c"), (4, "a")] := by
    decide +kernel
  obtain ⟨-, -, -, bindings, -⟩ := exclusive Host.silent (.interpreter "test") () reached
  obtain ⟨-, -, -, -, -, -, -, left⟩ := exclusive Host.silent (.interpreter "test") ()
    (reachable_play reached leavingAll)
  have ended : ∀ c ∈ (Steps.play (step? Host.silent) sharedThread leavingAll).calls,
      c.outcome?.isSome = true := by
    decide +kernel
  refine ⟨bound, (bindings (4, "a")).mp ?_, by decide +kernel, left fun c hc => ?_⟩
  · rw [bound]
    decide +kernel
  · exact ended_of_outcome (ended c hc)

end Calls

end ScriptGateway.Engine
