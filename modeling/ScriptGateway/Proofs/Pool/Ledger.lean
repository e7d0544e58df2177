import ScriptGateway.Proofs.Pool.Effect
/-!
# Where every job is

A job that was accepted is in exactly one place: in the queue, with a worker that has not handed
it over yet, with a handler, or ended. Nothing is lost and nothing is doubled, in every order
of steps.

* `Ledger`: the queue is what was accepted and not taken yet, in that order; what was taken was
  handed over or is with a worker before that; what was handed over ended or runs.
-/

namespace ScriptGateway.Pool

variable {α β : Type}

/-! ## 1. The job a worker has -/

/-- How far a worker is with its job. -/
inductive Stage where
  | upcoming
  | running
  | outgoing
  deriving DecidableEq

/-- The job a worker has, with the stage it is in. -/
def WorkerPhase.holding? : WorkerPhase α β → Option (Stage × Job α)
  | idle => none
  | listening => none
  | received job => some (.upcoming, job)
  | dequeued job => some (.upcoming, job)
  | running job => some (.running, job)
  | panicked job _ => some (.outgoing, job)
  | ended job _ => some (.outgoing, job)
  | leaving job _ => some (.outgoing, job)
  | replying job _ => some (.outgoing, job)
  | exited => none

/-- Whether a worker has the job of a caller, in a certain stage. -/
def WorkerPhase.holds (stage : Stage) (caller : Nat) (p : WorkerPhase α β) : Bool :=
  match p.holding? with
  | some (stage', job) => decide (stage' = stage ∧ job.caller = caller)
  | none => false

/-- A worker's move on its own keeps its job and the stage. -/
theorem WorkerMove.holding {s : State α β} {p p' : WorkerPhase α β} {f : Counters → Counters}
    (h : WorkerMove s p f p') : p'.holding? = p.holding? := by
  cases h <;> rfl

theorem WorkerMove.holds {s : State α β} {p p' : WorkerPhase α β} {f : Counters → Counters}
    (h : WorkerMove s p f p') (stage : Stage) (c : Nat) : p'.holds stage c = p.holds stage c := by
  unfold WorkerPhase.holds
  rw [h.holding]

/-- On how many workers the job of a caller is, in a certain stage. -/
def State.held (s : State α β) (stage : Stage) (caller : Nat) : Nat :=
  s.workers.countP (·.holds stage caller)

/-- A worker that changes its phase moves the count of a stage by what the two phases hold. -/
theorem held_setWorker {s : State α β} {w : Nat} {p q : WorkerPhase α β}
    (hw : s.workers[w]? = some p) (stage : Stage) (c : Nat) :
    (s.setWorker w q).held stage c + (if p.holds stage c then 1 else 0) =
      s.held stage c + (if q.holds stage c then 1 else 0) :=
  countP_set_add _ hw

/-- Between phases that hold the same, no count moves. -/
theorem held_setWorker_eq {s : State α β} {w : Nat} {p q : WorkerPhase α β}
    (hw : s.workers[w]? = some p) (stage : Stage) (c : Nat)
    (h : q.holds stage c = p.holds stage c) : (s.setWorker w q).held stage c = s.held stage c := by
  have := held_setWorker (q := q) hw stage c
  rw [h] at this
  omega

/-! ## 2. The ledger -/

/-- The callers whose jobs were handed to the handler, in order. -/
def Record.handedCallers (r : Record β) : List Nat :=
  r.handed.map Prod.fst

/-- The callers whose jobs ended, in order. -/
def Record.endedCallers (r : Record β) : List Nat :=
  r.ended.map Prod.fst

/-- **The ledger of jobs.** -/
structure Ledger (s : State α β) : Prop where
  order : s.record.accepted = s.record.taken ++ s.queue.map Job.caller
  taken : ∀ c, s.record.taken.count c = s.record.handedCallers.count c + s.held .upcoming c
  handed : ∀ c, s.record.handedCallers.count c =
    s.record.endedCallers.count c + s.held .running c

theorem ledger_start (settings : Settings) : Ledger (.new settings : State α β) where
  order := rfl
  taken c := by
    simp [State.new, State.held, Record.handedCallers, List.countP_replicate, WorkerPhase.holds,
      WorkerPhase.holding?]
  handed c := by
    simp [State.new, State.held, Record.handedCallers, Record.endedCallers, List.countP_replicate,
      WorkerPhase.holds, WorkerPhase.holding?]

theorem ledger_step {s s' : State α β} {a : Action α β} (h : Ledger s) (he : Effect s a s') :
    Ledger s' := by
  cases he with
  | submit request limit => exact ⟨h.order, h.taken, h.handed⟩
  | caller i k f p hk hm => exact ⟨h.order, h.taken, h.handed⟩
  | expire i k limit hk hp hl => exact ⟨h.order, h.taken, h.handed⟩
  | accept i k hk hp ha hr =>
    refine ⟨?_, h.taken, h.handed⟩
    show s.record.accepted ++ [i] =
      s.record.taken
        ++ (s.queue ++ [({ caller := i, request := k.request } : Job α)]).map Job.caller
    rw [h.order, List.map_append, List.append_assoc]
    rfl
  | worker w p p' f hw hm =>
    have keep (stage : Stage) (c : Nat) : (s.setWorker w p').held stage c = s.held stage c :=
      held_setWorker_eq hw stage c (hm.holds stage c)
    exact ⟨h.order, fun c => keep .upcoming c ▸ h.taken c, fun c => keep .running c ▸ h.handed c⟩
  | take w job rest hw hq =>
    refine ⟨?_, ?_, ?_⟩
    · show s.record.accepted = (s.record.taken ++ [job.caller]) ++ rest.map Job.caller
      rw [h.order, hq, List.append_assoc]
      rfl
    · intro c
      have moved := held_setWorker (q := .received job) hw .upcoming c
      have before := h.taken c
      show (s.record.taken ++ [job.caller]).count c =
        s.record.handedCallers.count c + (s.setWorker w (.received job)).held .upcoming c
      simp [WorkerPhase.holds, WorkerPhase.holding?] at moved
      simp only [List.count_append, List.count_singleton, beq_iff_eq]
      omega
    · intro c
      exact (held_setWorker_eq (q := .received job) hw .running c rfl) ▸ h.handed c
  | hand w job hw =>
    refine ⟨h.order, ?_, ?_⟩
    · intro c
      have moved := held_setWorker (q := .running job) hw .upcoming c
      have before := h.taken c
      show s.record.taken.count c = ((s.record.handed ++ [(job.caller, w)]).map Prod.fst).count c +
        (s.setWorker w (.running job)).held .upcoming c
      simp [WorkerPhase.holds, WorkerPhase.holding?] at moved
      simp only [Record.handedCallers] at before
      simp only [List.map_append, List.map_cons, List.map_nil, List.count_append,
        List.count_singleton, beq_iff_eq]
      omega
    · intro c
      have moved := held_setWorker (q := .running job) hw .running c
      have before := h.handed c
      show ((s.record.handed ++ [(job.caller, w)]).map Prod.fst).count c =
        s.record.endedCallers.count c + (s.setWorker w (.running job)).held .running c
      simp [WorkerPhase.holds, WorkerPhase.holding?] at moved
      simp only [Record.handedCallers] at before
      simp only [List.map_append, List.map_cons, List.map_nil, List.count_append,
        List.count_singleton, beq_iff_eq]
      omega
  | finish w job outcome hw =>
    have same : (State.afterwards job outcome).holds .upcoming = (WorkerPhase.running job :
        WorkerPhase α β).holds .upcoming := by
      cases outcome <;> rfl
    refine ⟨h.order, ?_, ?_⟩
    · intro c
      exact (held_setWorker_eq hw .upcoming c (congrFun same c)) ▸ h.taken c
    · intro c
      have moved := held_setWorker (q := State.afterwards job outcome) hw .running c
      have before := h.handed c
      have out : (State.afterwards job outcome).holds .running c = false := by
        cases outcome <;> rfl
      show s.record.handedCallers.count c =
        ((s.record.ended ++ [(job.caller, outcome)]).map Prod.fst).count c +
          (s.setWorker w (State.afterwards job outcome)).held .running c
      rw [out] at moved
      simp [WorkerPhase.holds, WorkerPhase.holding?] at moved
      simp only [Record.endedCallers] at before
      simp only [List.map_append, List.map_cons, List.map_nil, List.count_append,
        List.count_singleton, beq_iff_eq]
      omega
  | reply w job result hw =>
    have keep (stage : Stage) (hs : stage ≠ .outgoing) (c : Nat) :
        (s.setWorker w .idle).held stage c = s.held stage c :=
      held_setWorker_eq hw stage c (by cases stage <;> first | rfl | exact absurd rfl hs)
    exact ⟨h.order, fun c => keep .upcoming (by decide) c ▸ h.taken c,
      fun c => keep .running (by decide) c ▸ h.handed c⟩
  | exit w hw hq hs =>
    have keep (stage : Stage) (c : Nat) : (s.setWorker w .exited).held stage c = s.held stage c :=
      held_setWorker_eq hw stage c rfl
    exact ⟨h.order, fun c => keep .upcoming c ▸ h.taken c, fun c => keep .running c ▸ h.handed c⟩
  | close => exact ⟨h.order, h.taken, h.handed⟩
  | flag i hi hf => exact ⟨h.order, h.taken, h.handed⟩
  | again i hi hf => exact ⟨h.order, h.taken, h.handed⟩
  | takeSender i hi => exact ⟨h.order, h.taken, h.handed⟩
  | collect i hi => exact ⟨h.order, h.taken, h.handed⟩
  | join i workers hi hw => exact ⟨h.order, h.taken, h.handed⟩

theorem ledger_of_reachable {settings : Settings} {s : State α β} (h : s.Reachable settings) :
    Ledger s :=
  reachable_induction (ledger_start settings) (fun _ ih he => ledger_step ih he) h

end ScriptGateway.Pool
