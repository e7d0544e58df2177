import ScriptGateway.Executor.Machine
import ScriptGateway.Proofs.Pool.ExactlyOnce
import ScriptGateway.Proofs.Steps
/-!
# What one step of the executor does

A step of the executor is a step of its pool, or a step of a script, or stops the engine. A script
that is refused or left ends the handler of its worker, which is a step of the pool again.

* `Effect interpreter s a s'`: the rules, `effect_of_step`: the machine follows them.
* `reachable_induction`: what every rule keeps holds of all reachable states; `State.play` leads to
  some of them.
* `pool_of_effect`, `pool_reachable`: the pool of an executor is a reachable pool.
* `told_of_orderly`: what a caller whose job was handed over may be told.
* `running_of_run`: a script that runs belongs to a worker whose handler runs.
-/

namespace ScriptGateway.Executor

open Script (Context Session)

/-- A step of the pool of an executor. -/
abbrev PoolAction := Pool.Action Script.Request (Except Engine.Error Result)

/-- The steps of an executor that concern its pool only. -/
def Action.pool? (timeout : Option Duration) : Action → Option PoolAction
  | .submit request => some (.submit request timeout)
  | .caller i => some (.caller i)
  | .expire i => some (.expire i)
  | .worker w => some (.worker w)
  | .close => some .close
  | .closer i => some (.closer i)
  | _ => none

/-- The session of a script that runs, on the host as it is now. -/
def Run.session (run : Run) (host : WorkerHost) : Session WorkerHost :=
  { script := run.script, context := run.context, host }

/-- **What one step does.** -/
inductive Effect (interpreter : Script.Interpreter) (s : State) : Action → State → Prop where
  | pool (a : Action) (b : PoolAction) (pool : RequestPool) (ha : a.pool? s.timeout = some b)
      (hs : s.pool.step? b = some pool) : Effect interpreter s a { s with pool }
  | refuse (w : Nat) (job : Pool.Job Script.Request) (core : Core) (outcome : HandlerOutcome)
      (hw : s.pool.workers[w]? = some (.running job)) (hr : s.runs[w]? = some none)
      (hc : s.core.enter w job.request = (core, .error outcome)) :
      Effect interpreter s (.enter w) { s with core, pool := s.pool.conclude w job outcome }
  | enter (w : Nat) (job : Pool.Job Script.Request) (core : Core) (session : Session WorkerHost)
      (hw : s.pool.workers[w]? = some (.running job)) (hr : s.runs[w]? = some none)
      (hc : s.core.enter w job.request = (core, .ok session)) :
      Effect interpreter s (.enter w) { s with
        core
        runs := s.runs.set w (some
          { script := session.script, context := session.context
            program := State.programOf core.engine.bridge.backend interpreter session.script }) }
  | perform (w : Nat) (run : Run) (op : Script.Operation) (next : op.Answer → Script.Program)
      (answer : op.Answer) (session : Session WorkerHost) (hr : s.runs[w]? = some (some run))
      (hp : run.program = .ask op next)
      (ho : Session.perform WorkerHost.operations op (run.session s.core.host) =
        (answer, session)) :
      Effect interpreter s (.perform w) { s with
        core := { s.core with host := session.host }
        runs := s.runs.set w (some
          { script := session.script, context := session.context, program := next answer }) }
  | leave (w : Nat) (run : Run) (ending : Script.Ending) (job : Pool.Job Script.Request)
      (outcome : HandlerOutcome) (core : Core) (hr : s.runs[w]? = some (some run))
      (hp : ending? run.program = some ending) (hw : s.pool.workers[w]? = some (.running job))
      (hc : s.core.leave w ending (run.session s.core.host) = (outcome, core)) :
      Effect interpreter s (.leave w) { s with
        core, runs := s.runs.set w none, pool := s.pool.conclude w job outcome }
  | stop (i : Nat) (hi : s.pool.closers[i]? = some .joined) (hs : i ∉ s.stopped) :
      Effect interpreter s (.stop i) { s with
        core := { s.core with engine := s.core.engine.shutdown.engine }
        stopped := s.stopped ++ [i] }

/-- The end of a handler is what the pool makes of it. -/
theorem conclude_of_poolStep {s s' : State} {w : Nat} {outcome : HandlerOutcome}
    (h : s.poolStep? (.finish w outcome) = some s') : ∃ job,
      s.pool.workers[w]? = some (.running job) ∧
        s' = { s with pool := s.pool.conclude w job outcome } := by
  obtain ⟨pool, hs, rfl⟩ := Option.map_eq_some_iff.mp h
  cases Pool.effect_of_step hs with
  | finish _ job _ hw => exact ⟨job, hw, rfl⟩

/-- **Whatever a step does is one of the rules.** -/
theorem effect_of_step {interpreter : Script.Interpreter} {s s' : State} {a : Action}
    (h : s.step? interpreter a = some s') : Effect interpreter s a s' := by
  have pool {b : PoolAction} (ha : a.pool? s.timeout = some b) (h : s.poolStep? b = some s') :
      Effect interpreter s a s' := by
    obtain ⟨pool, hs, rfl⟩ := Option.map_eq_some_iff.mp h
    exact .pool a b pool ha hs
  cases a with
  | submit request => exact pool rfl h
  | caller i => exact pool rfl h
  | expire i => exact pool rfl h
  | worker w => exact pool rfl h
  | close => exact pool rfl h
  | closer i => exact pool rfl h
  | enter w =>
    simp only [State.step?, State.enter?] at h
    split at h
    · next job hw hr =>
      split at h
      · next core outcome hc =>
        obtain ⟨job', hw', rfl⟩ := conclude_of_poolStep h
        cases hw.symm.trans hw'
        exact .refuse w job core outcome hw hr hc
      · next core session hc => exact Option.some.inj h ▸ .enter w job core session hw hr hc
    · cases h
  | perform w =>
    simp only [State.step?, State.perform?] at h
    split at h
    · next script context op next hr =>
      exact Option.some.inj h ▸ .perform w _ op next _ _ hr rfl rfl
    · cases h
  | leave w =>
    simp only [State.step?, State.leave?] at h
    split at h
    · next run hr =>
      obtain ⟨ending, hp, h⟩ := Option.bind_eq_some_iff.mp h
      obtain ⟨job, hw, rfl⟩ := conclude_of_poolStep h
      exact .leave w run ending job _ _ hr hp hw rfl
    · cases h
  | stop i =>
    simp only [State.step?, State.stop?] at h
    split at h
    · next hi => exact Option.some.inj h ▸ .stop i hi.1 hi.2
    · cases h

/-- **The induction over all orders of steps.** -/
theorem reachable_induction {interpreter : Script.Interpreter} {first : State} {P : State → Prop}
    (start : P first)
    (step : ∀ {s s' : State} {a : Action}, State.Reachable interpreter first s → P s →
      Effect interpreter s a s' → P s')
    {s : State} (h : State.Reachable interpreter first s) : P s := by
  induction h with
  | start => exact start
  | step hr a hs ih => exact step hr ih (effect_of_step hs)

/-- Carries out steps one after another. An impossible one changes nothing. -/
def State.play (interpreter : Script.Interpreter) (s : State) (actions : List Action) : State :=
  actions.foldl (fun s a => (s.step? interpreter a).getD s) s

theorem reachable_play {interpreter : Script.Interpreter} {first s : State}
    (h : State.Reachable interpreter first s) (actions : List Action) :
    State.Reachable interpreter first (s.play interpreter actions) :=
  Steps.play_keeps (fun a h hs => .step h a hs) h actions

/-! ## 1. The pool of an executor -/

/-- The settings of the pool of a new executor. -/
def poolSettings (processors workers capacity : Nat) : Pool.Settings :=
  let workers := if workers = 0 then processors else workers
  .withCapacity poolName workers
    (if capacity = 0 then workers * Pool.placesPerWorker else capacity)

theorem step_finish {s : RequestPool} {w : Nat} {job : Pool.Job Script.Request}
    (hw : s.workers[w]? = some (.running job)) (outcome : HandlerOutcome) :
    s.step? (.finish w outcome) = some (s.conclude w job outcome) := by
  simp only [Pool.State.step?, hw, Option.bind_some, Pool.State.finish?]
  cases outcome <;> rfl

/-- In one step of the executor the pool takes at most one. -/
theorem pool_of_effect {interpreter : Script.Interpreter} {s s' : State} {a : Action}
    (he : Effect interpreter s a s') :
    (∃ b, s.pool.step? b = some s'.pool) ∨ s'.pool = s.pool := by
  cases he with
  | pool a b pool ha hs => exact .inl ⟨b, hs⟩
  | refuse w job core outcome hw hr hc => exact .inl ⟨_, step_finish hw outcome⟩
  | enter w job core session hw hr hc => exact .inr rfl
  | perform w run op next answer session hr hp ho => exact .inr rfl
  | leave w run ending job outcome core hr hp hw hc => exact .inl ⟨_, step_finish hw outcome⟩
  | stop i hi hs => exact .inr rfl

/-- **The pool of an executor is a reachable pool**, so that all invariants of pools hold of it. -/
theorem pool_reachable {interpreter : Script.Interpreter} {engine : Engine}
    {processors workers capacity : Nat} {timeout : Option Duration} {s : State}
    (h : State.Reachable interpreter (.new engine processors workers capacity timeout) s) :
    s.pool.Reachable (poolSettings processors workers capacity) := by
  refine reachable_induction (P := fun s => s.pool.Reachable _) .start (fun _ ih he => ?_) h
  rcases pool_of_effect he with ⟨b, hs⟩ | e
  · exact .step ih b hs
  · exact e ▸ ih

/-- A step of the pool alone ends no handler. -/
theorem Action.pool?_ne_finish {a : Action} {timeout : Option Duration} {b : PoolAction}
    (h : a.pool? timeout = some b) (w : Nat) (outcome : HandlerOutcome) :
    b ≠ .finish w outcome := by
  rintro rfl
  cases a <;> cases h

/-- A caller whose job ended is told its own outcome, or that it gave up. -/
theorem told_of_orderly {s : RequestPool} (h : Pool.Orderly s) {c : Nat}
    {k : Pool.Caller Script.Request (Except Engine.Error Result)}
    {result : Except Pool.Error (Except Engine.Error Result)} (hc : c ∈ s.record.handedCallers)
    (hk : s.callers[c]? = some k) (hp : k.phase = .answered result) :
    (∃ o : HandlerOutcome, (c, o) ∈ s.record.ended ∧ result = o.result) ∨
      ∃ limit, k.limit = some limit ∧ result = .error (.timeout limit) := by
  have accepted : c ∈ s.record.accepted :=
    h.order ▸ List.mem_append_left _ (h.handed_taken hc)
  have justified := h.answers c k result hk hp
  cases result with
  | ok value => exact .inl ⟨.returned value, justified, rfl⟩
  | error e =>
    cases e with
    | workerPanic message => exact .inl ⟨.panicked message, justified, rfl⟩
    | timeout limit => exact .inr ⟨limit, justified.2, rfl⟩
    | queueFull capacity pending => exact absurd accepted justified
    | shutdown => exact absurd accepted justified
    | channelClosed => exact justified.elim
    | spawn message => exact justified.elim

/-- The run on a worker after one run was replaced. -/
theorem runs_set {runs : List (Option Run)} {w v : Nat} {x : Option Run} {run : Run}
    (h : (runs.set w x)[v]? = some (some run)) :
    (v = w ∧ x = some run) ∨ (v ≠ w ∧ runs[v]? = some (some run)) := by
  by_cases hv : v = w
  · subst hv
    rw [List.getElem?_set_self'] at h
    obtain ⟨_, -, e⟩ := Option.map_eq_some_iff.mp h
    exact .inl ⟨rfl, e⟩
  · rw [List.getElem?_set_ne (Ne.symm hv)] at h
    exact .inr ⟨hv, h⟩

/-- A script runs on a worker only while the pool has the handler of that worker running. -/
theorem running_of_run {interpreter : Script.Interpreter} {engine : Engine}
    {processors workers capacity : Nat} {timeout : Option Duration} {s : State}
    (h : State.Reachable interpreter (.new engine processors workers capacity timeout) s) :
    ∀ (w : Nat) (run : Run), s.runs[w]? = some (some run) →
      ∃ job, s.pool.workers[w]? = some (.running job) := by
  refine reachable_induction (P := fun s => ∀ (w : Nat) (run : Run), s.runs[w]? = some (some run) →
    ∃ job, s.pool.workers[w]? = some (.running job)) (fun w run hr => ?_) (fun _ ih he => ?_) h
  · cases List.eq_of_mem_replicate (List.mem_of_getElem? hr)
  · intro v run hv
    cases he with
    | pool a b pool ha hs =>
      obtain ⟨job, hw⟩ := ih v run hv
      exact ⟨job, Pool.running_kept (Pool.effect_of_step hs) hw (Action.pool?_ne_finish ha v)⟩
    | refuse w job core outcome hw hr hc =>
      have hne : v ≠ w := fun e => by cases (e ▸ hr).symm.trans hv
      obtain ⟨job', hw'⟩ := ih v run hv
      exact ⟨job', (Pool.State.workers_setWorker_ne (q := Pool.State.afterwards job outcome)
        hne).trans hw'⟩
    | enter w job core session hw hr hc =>
      rcases runs_set hv with ⟨rfl, -⟩ | ⟨-, hv⟩
      · exact ⟨job, hw⟩
      · exact ih v run hv
    | perform w run₀ op next answer session hr hp ho =>
      rcases runs_set hv with ⟨rfl, -⟩ | ⟨-, hv⟩
      · exact ih v run₀ hr
      · exact ih v run hv
    | leave w run₀ ending job outcome core hr hp hw hc =>
      rcases runs_set hv with ⟨-, e⟩ | ⟨hne, hv⟩
      · cases e
      · obtain ⟨job', hw'⟩ := ih v run hv
        exact ⟨job', (Pool.State.workers_setWorker_ne (q := Pool.State.afterwards job outcome)
          hne).trans hw'⟩
    | stop i hi hs => exact ih v run hv

end ScriptGateway.Executor
