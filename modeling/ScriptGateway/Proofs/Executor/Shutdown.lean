import ScriptGateway.Proofs.Executor.Request
import ScriptGateway.Proofs.Pool.Handles
/-!
# Shutting the executor down

A closer joins the workers and then stops the engine. If it is the one that found the workers'
handles, all work is done by then. If calls overlap, a later one finds no handles, and stops the
engine while scripts run and accepted jobs wait.

* `shutdown_waits`: a closer that is about to stop the engine finds all work done just if no other
  closer waits for a worker; if the engine is only ever stopped then, no request is told that the
  engine is not started, and no script runs on an engine that was stopped.
* `overlapping_shutdown`: two calls that overlap.
-/

namespace ScriptGateway.Executor

open Script (Context Session)

/-! ## 1. Runs in which the engine is stopped last -/

/-- The states that steps lead to which stop the engine only when no closer waits. -/
inductive CalmlyReachable (interpreter : Script.Interpreter) (first : State) : State → Prop where
  | start : CalmlyReachable interpreter first first
  | step {s s' : State} (h : CalmlyReachable interpreter first s) (a : Action)
      (hs : s.step? interpreter a = some s')
      (hc : ∀ i, a = .stop i → Pool.NobodyWaits s.pool) : CalmlyReachable interpreter first s'

theorem CalmlyReachable.reachable {interpreter : Script.Interpreter} {first s : State}
    (h : CalmlyReachable interpreter first s) : State.Reachable interpreter first s := by
  induction h with
  | start => exact .start
  | step _ a hs _ ih => exact .step ih a hs

/-- **The engine is stopped last**: once it is not started every worker exited, and no job was ever
told so. -/
structure StoppedLast (s : State) : Prop where
  exited : s.core.engine.started = false → Pool.AllExited s.pool
  outcomes : ∀ c, (c, .returned (.error .notStarted)) ∉ s.pool.record.ended

theorem stoppedLast_step {interpreter : Script.Interpreter} {s s' : State} {a : Action}
    (hf : ∀ i : Nat, s.pool.closers[i]? = some .joined → Pool.NobodyWaits s.pool →
      Pool.Finished s.pool)
    (hc : ∀ i, a = .stop i → Pool.NobodyWaits s.pool) (h : StoppedLast s)
    (he : Effect interpreter s a s') : StoppedLast s' := by
  -- a worker whose handler runs has not exited, so the engine is started
  have started {w : Nat} {job : Pool.Job Script.Request}
      (hw : s.pool.workers[w]? = some (.running job)) : s.core.engine.started = true := by
    cases hs : s.core.engine.started with
    | true => rfl
    | false => cases h.exited hs w _ hw
  have concluded {c w : Nat} {job : Pool.Job Script.Request} (outcome : HandlerOutcome)
      (ho : outcome ≠ .returned (.error .notStarted))
      (hm : (c, .returned (.error .notStarted)) ∈ (s.pool.conclude w job outcome).record.ended) :
      False := by
    rcases List.mem_append.mp hm with hm | hm
    · exact h.outcomes c hm
    · exact ho (Prod.mk.inj (List.mem_singleton.mp hm)).2.symm
  cases he with
  | pool a b pool ha hs =>
    have he := Pool.effect_of_step hs
    refine ⟨fun hs => (h.exited hs).step he, fun c hm => h.outcomes c ?_⟩
    exact Pool.ended_kept he (Action.pool?_ne_finish ha) ▸ hm
  | refuse w job core outcome hw hr hcore =>
    have entry := s.core.entry w job.request
    rw [hcore] at entry
    cases entry with
    | notStarted hs => cases hs.symm.trans (started hw)
    | emptyScript hs he =>
      exact ⟨fun hs' => Bool.noConfusion (hs.symm.trans hs'),
        fun c hm => concluded (.returned (.error .emptyScript)) nofun hm⟩
    | threadBusy hs he hb =>
      exact ⟨fun hs' => Bool.noConfusion (hs.symm.trans hs'),
        fun c hm => concluded (.returned (.error (.threadBusy _))) nofun hm⟩
  | enter w job core session hw hr hcore =>
    have entry := s.core.entry w job.request
    rw [hcore] at entry
    cases entry with
    | opened hs he hb => exact ⟨fun hs' => Bool.noConfusion (hs.symm.trans hs'), h.outcomes⟩
  | perform w run op next answer session hr hp ho => exact ⟨h.exited, h.outcomes⟩
  | leave w run ending job outcome core hr hp hw hcore =>
    obtain ⟨rfl, rfl⟩ := Prod.mk.inj hcore
    refine ⟨fun hs => ?_, fun c hm => concluded _ (leave_ne_refused _ _ _ _ _) hm⟩
    cases hs.symm.trans (started hw)
  | stop i hi hs =>
    exact ⟨fun _ => (hf i hi (hc i rfl)).exited, h.outcomes⟩

theorem stoppedLast_of_calm {interpreter : Script.Interpreter} {engine : Engine}
    {processors workers capacity : Nat} {timeout : Option Duration} (hs : engine.started = true)
    {s : State}
    (h : CalmlyReachable interpreter (.new engine processors workers capacity timeout) s) :
    StoppedLast s := by
  induction h with
  | start => exact ⟨fun hs' => Bool.noConfusion (hs.symm.trans hs'), nofun⟩
  | step hr a hstep hc ih =>
    refine stoppedLast_step (fun i hi => ?_) hc ih (effect_of_step hstep)
    exact (Pool.finished_iff_nobodyWaits (pool_reachable hr.reachable) hi).mpr

/-! ## 2. What shutting down waits for -/

/-- **What a shutdown waits for.** -/
theorem shutdown_waits (interpreter : Script.Interpreter) (engine : Engine)
    (processors workers capacity : Nat) (timeout : Option Duration) :
    (∀ s, State.Reachable interpreter (.new engine processors workers capacity timeout) s →
      ∀ i : Nat, s.pool.closers[i]? = some .joined →
        (Pool.Finished s.pool ↔ Pool.NobodyWaits s.pool)) ∧
    (engine.started = true → ∀ s,
      CalmlyReachable interpreter (.new engine processors workers capacity timeout) s →
        (∀ c, s.result? c ≠ some (.error (.engine .notStarted))) ∧
        ∀ (w : Nat) (run : Run), s.runs[w]? = some (some run) → s.core.engine.started = true) := by
  refine ⟨fun s h i hi => Pool.finished_iff_nobodyWaits (pool_reachable h) hi, fun hs s h => ?_⟩
  have last := stoppedLast_of_calm hs h
  refine ⟨?_, ?_⟩
  · intro c hc
    obtain ⟨answer, ha, hflat⟩ := Option.map_eq_some_iff.mp hc
    obtain ⟨k, hk, hp⟩ := Pool.answer?_eq_some.mp ha
    have orderly := Pool.orderly_of_reachable (pool_reachable h.reachable)
    obtain rfl : answer = .ok (.error .notStarted) := by
      cases answer with
      | error e => cases hflat
      | ok value =>
        cases value with
        | ok result => cases hflat
        | error e => cases hflat; rfl
    exact last.outcomes c (orderly.answers c k _ hk hp)
  · intro w run hr
    cases hs' : s.core.engine.started with
    | true => rfl
    | false =>
      obtain ⟨job, hw⟩ := running_of_run h.reachable w run hr
      cases last.exited hs' w _ hw

/-- An interpreter that writes a byte. -/
def writing : Script.Interpreter := fun _ =>
  .ask (.write [33]) fun _ => .done

/-- An executor with one worker, on an engine that is started. -/
def oneWorkerExecutor : State :=
  .new startedEngine 1 1 1 none

/-- A closer comes while a script runs, and waits until the worker exited. -/
def drained : State :=
  oneWorkerExecutor.play writing
    [.submit (requestOf "first"), .caller 0, .caller 0, .caller 0, .caller 0, .worker 0, .worker 0,
      .worker 0, .worker 0, .enter 0, .close, .closer 0, .closer 0, .closer 0, .perform 0, .leave 0,
      .worker 0, .worker 0, .worker 0, .worker 0, .worker 0, .closer 0]

/-- Steps that do not stop the engine are calm. -/
theorem calm_play {interpreter : Script.Interpreter} {first s : State}
    (h : CalmlyReachable interpreter first s) {actions : List Action}
    (ha : ∀ i, .stop i ∉ actions) :
    CalmlyReachable interpreter first (s.play interpreter actions) := by
  induction actions generalizing s with
  | nil => exact h
  | cons a actions ih =>
    have rest : ∀ i, .stop i ∉ actions := fun i hi => ha i (List.mem_cons_of_mem a hi)
    show CalmlyReachable interpreter first
      (((s.step? interpreter a).getD s).play interpreter actions)
    cases hs : s.step? interpreter a with
    | none => exact ih h rest
    | some s' =>
      exact ih (.step h a hs fun i e => absurd (e ▸ List.mem_cons_self) (ha i)) rest

/-- The only closer is done, and so is all work. -/
theorem shutdown_waits_drained :
    drained.pool.closers[0]? = some .joined ∧ Pool.Finished drained.pool ∧
      ∀ c, drained.result? c ≠ some (.error (.engine .notStarted)) := by
  have calm : CalmlyReachable writing oneWorkerExecutor drained :=
    calm_play .start fun i hi => by simp at hi
  have joined : drained.pool.closers[0]? = some .joined := by decide +kernel
  have nobody : Pool.NobodyWaits drained.pool := by
    have closers : drained.pool.closers = [.joined] := by decide +kernel
    intro i workers hi
    rw [closers] at hi
    cases i with
    | zero => cases hi
    | succ i => cases hi
  obtain ⟨finished, told⟩ := shutdown_waits writing startedEngine 1 1 1 none
  exact ⟨joined, (finished drained calm.reachable 0 joined).mpr nobody, (told rfl drained calm).1⟩

/-! ## 3. Calls that overlap -/

/-- A script runs and a job is queued behind it. One closer waits for the worker; another finds no
worker to wait for. -/
def overlapping : State :=
  oneWorkerExecutor.play writing
    [.submit (requestOf "first"), .caller 0, .caller 0, .caller 0, .caller 0, .worker 0, .worker 0,
      .worker 0, .worker 0, .enter 0, .submit (requestOf "second"), .caller 1, .caller 1, .caller 1,
      .caller 1, .close, .closer 0, .closer 0, .closer 0, .close, .closer 1, .closer 1, .closer 1]

/-- The second closer stopped the engine, and the queued job came to its turn. -/
def stoppedEarly : State :=
  overlapping.play writing
    [.stop 1, .perform 0, .leave 0, .worker 0, .worker 0, .worker 0, .worker 0, .worker 0,
      .worker 0, .worker 0, .enter 0, .worker 0, .worker 0, .worker 0]

/-- **A shutdown that overlaps another one waits for nobody.** It stops the engine while a script
runs on it, and an accepted job is told that the engine is not started. -/
theorem overlapping_shutdown :
    (State.Reachable writing oneWorkerExecutor overlapping ∧
      overlapping.pool.closers[1]? = some .joined ∧ ¬ Pool.Finished overlapping.pool) ∧
    (overlapping.step? writing (.stop 1)).isSome = true ∧
      overlapping.core.engine.shutdown.calls = [.shutdown] ∧
      overlapping.core.engine.bridge.active.isActive 0 = true ∧
    State.Reachable writing oneWorkerExecutor stoppedEarly ∧
      1 ∈ stoppedEarly.pool.record.accepted ∧
      stoppedEarly.result? 1 = some (.error (.engine .notStarted)) := by
  have reachable : State.Reachable writing oneWorkerExecutor overlapping := reachable_play .start _
  refine ⟨⟨reachable, by decide +kernel, fun h => ?_⟩, by decide +kernel, by decide +kernel,
    by decide +kernel, reachable_play reachable _, by decide +kernel, by decide +kernel⟩
  have running : overlapping.pool.workers[0]? =
      some (.running { caller := 0, request := requestOf "first" }) := by rfl
  cases h.exited 0 _ running

end ScriptGateway.Executor
