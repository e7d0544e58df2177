import ScriptGateway.Engine.Lifecycle
import ScriptGateway.Proofs.Engine.Exclusivity
/-!
# Refusals

An execution that is refused leaves no trace: neither the host nor the interpreter was asked
anything, and the context and the bindings are what they were. Among other calls on the same bridge
it is one step, and that step changes nothing but where the call stands.

* `Bridge.Traceless`, `Engine.Traceless`: what a refusal leaves, and why there was one.
* `Calls.Noted`: calls with the steps that were taken, each with the state it was taken in.
* `Calls.RefusedAt`: the one step of a call that was refused.
* `Calls.Traced`, `traced_step`, `traced_play`: what every order of steps keeps.
* `refused_traceless`: all of it.
-/

namespace ScriptGateway.Engine

open Script (Context Host Session)

variable {σ : Type}

/-! ## 1. One execution -/

namespace Bridge

theorem refuses_of_outcome {h : Host σ} {interpreter : Script.Interpreter} {b : Bridge}
    {c : Context} {script : String} {host : σ} {e : Error}
    (ho : (b.execute h interpreter c script host).outcome = .refused e) :
    b.Refuses c script e := by
  by_cases hr : script = "" ∨ b.active.isActive c.thread = true
  · obtain ⟨e', he⟩ := exists_refuses hr
    rw [execute_refused h interpreter host he] at ho
    cases ho
    exact he
  · obtain ⟨hs, hf⟩ := not_or.mp hr
    rw [execute_free h interpreter host hs (Bool.eq_false_iff.mpr hf)] at ho
    exact absurd ho (settle_ne_refused h b.backend _ _ e)

/-- **A refusal of a bridge.** -/
structure Traceless (h : Host σ) (b : Bridge) (c : Context) (script : String) (host : σ)
    (e : Error) : Prop where
  cause : b.Refuses c script e
  /-- Bridge, context and host are as before, whatever an interpreter would do with the script. -/
  unchanged : ∀ interpreter, b.execute h interpreter c script host =
    { outcome := .refused e, bridge := b, context := c, host }
  /-- The host was not called. -/
  unheard : ∀ interpreter, (b.execute h.recording interpreter c script (host, [])).host =
    (host, [])

theorem Refuses.traceless {b : Bridge} {c : Context} {script : String} {e : Error}
    (he : b.Refuses c script e) (h : Host σ) (host : σ) : Traceless h b c script host e where
  cause := he
  unchanged interpreter := execute_refused h interpreter host he
  unheard interpreter := by rw [execute_refused h.recording interpreter (host, []) he]

end Bridge

/-- Why an engine refuses to execute a script on a context: first of all it has to be started. -/
def Refuses (engine : ScriptGateway.Engine) (c : Context) (script : String) (e : Error) : Prop :=
  engine.started = false ∧ e = .notStarted ∨
    engine.started = true ∧ engine.bridge.Refuses c script e

theorem execute_unstarted (h : Host σ) (interpreter : Script.Interpreter)
    {engine : ScriptGateway.Engine} (c : Context) (script : String) (host : σ)
    (hs : engine.started = false) : engine.execute h interpreter c script host =
      { outcome := .refused .notStarted, engine, context := c, host } := by
  unfold execute
  rw [hs]
  rfl

theorem execute_started (h : Host σ) (interpreter : Script.Interpreter)
    {engine : ScriptGateway.Engine} (c : Context) (script : String) (host : σ)
    (hs : engine.started = true) : engine.execute h interpreter c script host =
      { outcome := (engine.bridge.execute h interpreter c script host).outcome
        engine :=
          { engine with bridge := (engine.bridge.execute h interpreter c script host).bridge }
        context := (engine.bridge.execute h interpreter c script host).context
        host := (engine.bridge.execute h interpreter c script host).host } := by
  unfold execute
  rw [hs]
  rfl

theorem refuses_of_outcome {h : Host σ} {interpreter : Script.Interpreter}
    {engine : ScriptGateway.Engine} {c : Context} {script : String} {host : σ} {e : Error}
    (ho : (engine.execute h interpreter c script host).outcome = .refused e) :
    Refuses engine c script e := by
  cases hs : engine.started with
  | false =>
    rw [execute_unstarted h interpreter c script host hs] at ho
    cases ho
    exact .inl ⟨hs, rfl⟩
  | true =>
    rw [execute_started h interpreter c script host hs] at ho
    exact .inr ⟨hs, Bridge.refuses_of_outcome ho⟩

theorem execute_refused (h : Host σ) (interpreter : Script.Interpreter)
    {engine : ScriptGateway.Engine} {c : Context} {script : String} {e : Error} (host : σ)
    (he : Refuses engine c script e) : engine.execute h interpreter c script host =
      { outcome := .refused e, engine, context := c, host } := by
  rcases he with ⟨hs, rfl⟩ | ⟨hs, he⟩
  · exact execute_unstarted h interpreter c script host hs
  · rw [execute_started h interpreter c script host hs,
      Bridge.execute_refused h interpreter host he]

/-- **A refusal of an engine.** -/
structure Traceless (h : Host σ) (engine : ScriptGateway.Engine) (c : Context) (script : String)
    (host : σ) (e : Error) : Prop where
  cause : Refuses engine c script e
  /-- Engine, context and host are as before, whatever an interpreter would do with the script. -/
  unchanged : ∀ interpreter, engine.execute h interpreter c script host =
    { outcome := .refused e, engine, context := c, host }
  /-- The host was not called. -/
  unheard : ∀ interpreter, (engine.execute h.recording interpreter c script (host, [])).host =
    (host, [])

theorem Refuses.traceless {engine : ScriptGateway.Engine} {c : Context} {script : String}
    {e : Error} (he : Refuses engine c script e) (h : Host σ) (host : σ) :
    Traceless h engine c script host e where
  cause := he
  unchanged interpreter := execute_refused h interpreter host he
  unheard interpreter := by rw [execute_refused h.recording interpreter (host, []) he]

/-! ## 2. Noted steps -/

/-- No call that took a step waits to be let in. -/
theorem Call.Move.not_arrived {b : Bridge} {host : σ} {c : Call} {turn : Call.Turn σ}
    (hm : c.Move b host turn) : turn.call.phase ≠ .arrived := by
  intro hp
  cases hm with
  | refuse e _ _ => cases hp
  | bind _ _ _ => cases hp
  | go host' c' hc =>
    have phase : c'.phase = .arrived := hp
    have holds := hc.holds
    simp [Call.isHolding, phase] at holds
  | release outcome _ => cases hp

namespace Calls

/-- Calls, and the steps that were taken, each with the state in which it was taken. -/
structure Noted (σ : Type) where
  now : Calls σ
  past : List (Calls σ × Action)

namespace Noted

/-- A bridge before the first call, without any step. -/
def new (backend : Backend) (host : σ) : Noted σ :=
  { now := .new backend host, past := [] }

/-- Carries out a step and notes it. -/
def step? (h : Host σ) (n : Noted σ) (a : Action) : Option (Noted σ) :=
  (n.now.step? h a).map fun m => { now := m, past := n.past ++ [(n.now, a)] }

/-- The steps that a call took. -/
def stepsOf (n : Noted σ) (i : Nat) : List (Calls σ × Action) :=
  n.past.filter (·.2.call? = some i)

/-- Whether a call came in with the context, the script and the program that it has. -/
def Came (n : Noted σ) (i : Nat) (c : Call) : Prop :=
  ∃ first, (first, .arrive c.context c.script c.program) ∈ n.past ∧ first.calls.length = i

theorem Came.mono {n n' : Noted σ} {i : Nat} {c : Call} (hc : n.Came i c)
    (past : n.past ⊆ n'.past) : n'.Came i c :=
  hc.imp fun _ => .imp_left fun hm => past hm

end Noted

/-- Noting the steps makes no difference to them. -/
theorem now_play (h : Host σ) (n : Noted σ) (actions : List Action) :
    (Steps.play (Noted.step? h) n actions).now = Steps.play (step? h) n.now actions := by
  induction actions generalizing n with
  | nil => rfl
  | cons a actions ih =>
    show (Steps.play (Noted.step? h) ((n.step? h a).getD n) actions).now =
      Steps.play (step? h) ((n.now.step? h a).getD n.now) actions
    rw [ih]
    unfold Noted.step?
    cases n.now.step? h a <;> rfl

/-- **The one step of a call that was refused.** -/
structure RefusedAt (h : Host σ) (n : Noted σ) (i : Nat) (c : Call) (e : Error)
    (before : Calls σ) : Prop where
  came : n.Came i c
  once : n.stepsOf i = [(before, .advance i)]
  waiting : before.calls[i]? = some { c with phase := .arrived }
  cause : before.bridge.Refuses c.context c.script e
  /-- Bridge, host and the other calls are as before, and of this one only where it stands. -/
  unchanged : before.step? h (.advance i) = some { before with calls := before.calls.set i c }

/-- **What is known of calls that no thread was bound for.** -/
structure Traced (h : Host σ) (n : Noted σ) : Prop where
  unrefused : Unrefused n.now
  absent : ∀ i, n.now.calls[i]? = none → n.stepsOf i = []
  arrived : ∀ i c, n.now.calls[i]? = some c → c.phase = .arrived → n.stepsOf i = [] ∧ n.Came i c
  refused : ∀ i c e, n.now.calls[i]? = some c → c.phase = .ended (.refused e) →
    ∃ before, RefusedAt h n i c e before

/-! ## 3. What one step does -/

/-- A call after a step: it is as it was, it came in just now, or it took the step itself. -/
inductive After (m : Calls σ) (a : Action) (m' : Calls σ) (i : Nat) (c : Call) : Prop where
  | same (ha : a.call? ≠ some i) (hc : m.calls[i]? = some c)
  | came (context : Context) (script : String) (program : Script.Program)
      (ha : a = .arrive context script program) (hi : m.calls.length = i)
      (hc : c = .arriving context script program)
  | moved (before : Call) (turn : Call.Turn σ) (ha : a.call? = some i)
      (hb : m.calls[i]? = some before) (hm : before.Move m.bridge m.host turn)
      (hm' : m' = m.took i turn) (hc : c = turn.call)

theorem after_of_effect {m m' : Calls σ} {a : Action} (he : Effect m a m') {i : Nat} {c : Call}
    (hc : m'.calls[i]? = some c) : After m a m' i c := by
  cases he with
  | arrive context script program =>
    rcases Nat.lt_trichotomy i m.calls.length with hi | rfl | hi
    · exact .same nofun ((List.getElem?_append_left hi).symm.trans hc)
    · have last := List.getElem?_concat_length.symm.trans hc
      exact .came context script program rfl rfl (Option.some.inj last).symm
    · rw [List.getElem?_eq_none (by simp; omega)] at hc
      cases hc
  | move _ k before turn ha hb hm =>
    by_cases hk : k = i
    · subst hk
      exact .moved before turn ha hb hm rfl (Option.some.inj (hc.symm.trans (took_self hb turn)))
    · exact .same (fun hi => hk (Option.some.inj (ha.symm.trans hi)))
        ((took_ne m turn hk).symm.trans hc)

/-- A call that is not there after a step was not there before it, and did not take it. -/
theorem absent_of_effect {m m' : Calls σ} {a : Action} (he : Effect m a m') {i : Nat}
    (hi : m'.calls[i]? = none) : m.calls[i]? = none ∧ a.call? ≠ some i := by
  cases he with
  | arrive context script program =>
    refine ⟨?_, nofun⟩
    rw [List.getElem?_eq_none_iff] at hi ⊢
    simp at hi
    omega
  | move _ k before turn ha hb hm =>
    by_cases hk : k = i
    · subst hk
      cases hi.symm.trans (took_self hb turn)
    · exact ⟨(took_ne m turn hk).symm.trans hi, fun hi => hk (Option.some.inj (ha.symm.trans hi))⟩

/-- A call that waits to be let in can only go on. -/
theorem advance_of_arrived {h : Host σ} {m m' : Calls σ} {a : Action} {i : Nat} {c : Call}
    (hs : m.step? h a = some m') (ha : a.call? = some i) (hc : m.calls[i]? = some c)
    (hp : c.phase = .arrived) : a = .advance i := by
  cases a with
  | arrive context script program => cases ha
  | advance k => exact congrArg Action.advance (Option.some.inj ha)
  | unwind k message =>
    obtain rfl := Option.some.inj ha
    obtain ⟨d, hd, hs⟩ := Option.bind_eq_some_iff.mp hs
    obtain rfl := Option.some.inj (hc.symm.trans hd)
    simp [Call.unwind?, Call.isHolding, hp] at hs

/-! ## 4. What every step keeps -/

theorem stepsOf_noted (n : Noted σ) (m : Calls σ) (a : Action) (i : Nat) :
    Noted.stepsOf { now := m, past := n.past ++ [(n.now, a)] } i =
      n.stepsOf i ++ if a.call? = some i then [(n.now, a)] else [] := by
  unfold Noted.stepsOf
  rw [List.filter_append]
  by_cases ha : a.call? = some i <;> simp [ha]

theorem RefusedAt.mono {h : Host σ} {n n' : Noted σ} {i : Nat} {c : Call} {e : Error}
    {before : Calls σ} (hr : RefusedAt h n i c e before) (past : n.past ⊆ n'.past)
    (steps : n'.stepsOf i = n.stepsOf i) : RefusedAt h n' i c e before where
  came := hr.came.mono past
  once := steps.trans hr.once
  waiting := hr.waiting
  cause := hr.cause
  unchanged := hr.unchanged

/-- **Every step keeps it.** -/
theorem traced_step {h : Host σ} {n n' : Noted σ} {a : Action} (ht : Traced h n)
    (hn : n.step? h a = some n') : Traced h n' := by
  obtain ⟨m, hs, rfl⟩ := Option.map_eq_some_iff.mp hn
  have he := effect_of_step hs
  have past : n.past ⊆ n.past ++ [(n.now, a)] := List.subset_append_left _ _
  have steps {i : Nat} (ha : a.call? ≠ some i) :
      Noted.stepsOf { now := m, past := n.past ++ [(n.now, a)] } i = n.stepsOf i := by
    rw [stepsOf_noted, if_neg ha, List.append_nil]
  refine ⟨unrefused_step ht.unrefused he, fun i hi => ?_, fun i c hc hp => ?_,
    fun i c e hc hp => ?_⟩
  · obtain ⟨none, ha⟩ := absent_of_effect he hi
    exact (steps ha).trans (ht.absent i none)
  · cases after_of_effect he hc with
    | same ha hc =>
      obtain ⟨taken, came⟩ := ht.arrived i c hc hp
      exact ⟨(steps ha).trans taken, came.mono past⟩
    | came context script program ha hi hd =>
      subst ha hd
      exact ⟨(steps nofun).trans (ht.absent i (List.getElem?_eq_none (Nat.le_of_eq hi))),
        n.now, List.mem_append_right _ List.mem_cons_self, hi⟩
    | moved before turn _ _ hm _ hd => exact absurd (hd ▸ hp) hm.not_arrived
  · cases after_of_effect he hc with
    | same ha hc =>
      obtain ⟨before, hr⟩ := ht.refused i c e hc hp
      exact ⟨before, hr.mono past (steps ha)⟩
    | came context script program _ _ hd =>
      subst hd
      cases hp
    | moved before turn ha hb hm hm' hd =>
      subst hd
      cases hm with
      | refuse e' hw he' =>
        -- the only step by which a call comes to be refused: it waited until now
        obtain rfl := advance_of_arrived hs ha hb hw
        obtain ⟨taken, came⟩ := ht.arrived i before hb hw
        have waiting : { before with phase := .arrived } = before := by rw [← hw]
        cases hp
        refine ⟨n.now, came.mono past, ?_, hb.trans (congrArg some waiting.symm), he', ?_⟩
        · rw [stepsOf_noted, if_pos ha, taken, List.nil_append]
        · rw [hs, hm']
          rfl
      | bind _ _ _ => cases hp
      | go host' c' hc' =>
        have phase : c'.phase = .ended (.refused e) := hp
        have holds := hc'.holds
        simp [Call.isHolding, phase] at holds
      | release outcome hl =>
        cases hp
        exact absurd rfl (ht.unrefused i before _ hb hl e)

theorem traced_new (h : Host σ) (backend : Backend) (host : σ) :
    Traced h (.new backend host) where
  unrefused _ _ _ hc := by cases hc
  absent _ _ := rfl
  arrived _ _ hc := by cases hc
  refused _ _ _ hc := by cases hc

/-- **So it holds of every order of steps.** -/
theorem traced_play (h : Host σ) (backend : Backend) (host : σ) (actions : List Action) :
    Traced h (Steps.play (Noted.step? h) (.new backend host) actions) :=
  Steps.play_keeps (fun _ => traced_step) (traced_new h backend host) actions

end Calls

/-! ## 5. Refusals -/

/-- **A refusal leaves no trace**, neither of a bridge nor of an engine, and neither alone nor among
other calls. -/
theorem refused_traceless (h : Host σ) :
    (∀ interpreter (b : Bridge) c script host e,
      (b.execute h interpreter c script host).outcome = .refused e →
        Bridge.Traceless h b c script host e) ∧
    (∀ interpreter (engine : ScriptGateway.Engine) c script host e,
      (engine.execute h interpreter c script host).outcome = .refused e →
        Traceless h engine c script host e) ∧
    (∀ backend host actions i c e,
      (Steps.play (Calls.step? h) (.new backend host) actions).calls[i]? = some c →
      c.phase = .ended (.refused e) →
        ∃ before, Calls.RefusedAt h
          (Steps.play (Calls.Noted.step? h) (.new backend host) actions) i c e before) := by
  refine ⟨fun interpreter b c script host e ho => ?_,
    fun interpreter engine c script host e ho => ?_, fun backend host actions i c e hc hp => ?_⟩
  · exact (Bridge.refuses_of_outcome ho).traceless h host
  · exact Refuses.traceless (refuses_of_outcome ho) h host
  · refine (Calls.traced_play h backend host actions).refused i c e ?_ hp
    rw [Calls.now_play]
    exact hc

/-- A context of the thread that is busy, with what an earlier execution left. -/
def usedAgain : Context :=
  { Bridge.used with thread := 1 }

/-- An engine that was not started, on the bridge where a script is executed. -/
def unstarted : ScriptGateway.Engine :=
  { version := "8.3", bridge := Bridge.busy, extensions := none, started := false }

/-- The call of three on one thread that finds it busy. -/
def thirdCall : Call :=
  { Call.arriving (Calls.contextOf 4) "b" .done with phase := .ended (.refused (.threadBusy 4)) }

theorem refused_traceless_busy :
    (Bridge.busy.execute Host.silent Bridge.lost usedAgain "script" ()).outcome =
        .refused (.threadBusy 1) ∧
      Bridge.Traceless Host.silent Bridge.busy usedAgain "script" () (.threadBusy 1) ∧
      (unstarted.execute Host.silent Bridge.lost usedAgain "script" ()).outcome =
        .refused .notStarted ∧
      Traceless Host.silent unstarted usedAgain "script" () .notStarted ∧
      Calls.sharedThread.calls[2]? = some thirdCall ∧
      ∃ before, Calls.RefusedAt Host.silent
        (Steps.play (Calls.Noted.step? Host.silent) (.new (.interpreter "test") ()) Calls.sharing)
        2 thirdCall (.threadBusy 4) before := by
  obtain ⟨bridge, engine, calls⟩ := refused_traceless Host.silent
  have busy : (Bridge.busy.execute Host.silent Bridge.lost usedAgain "script" ()).outcome =
      .refused (.threadBusy 1) := by
    decide +kernel
  have early : (unstarted.execute Host.silent Bridge.lost usedAgain "script" ()).outcome =
      .refused .notStarted := by
    decide +kernel
  have third : Calls.sharedThread.calls[2]? = some thirdCall := rfl
  exact ⟨busy, bridge Bridge.lost Bridge.busy usedAgain "script" () _ busy, early,
    engine Bridge.lost unstarted usedAgain "script" () _ early, third,
    calls (.interpreter "test") () Calls.sharing 2 thirdCall _ third rfl⟩

end ScriptGateway.Engine
