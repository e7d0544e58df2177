import ScriptGateway.Proofs.Pool.Accounts
/-!
# The accounts of a pool

What each of the six counters stands for, in the middle of everything: how far it is from that
depends on the actors that are between two of their steps, and on nothing else.

* `CallerPhase.isSubmitting`, `WorkerPhase.isBusy` and the others: which actors these are.
* `pendingJobs`, `busyWorkers`, `acceptedJobs` and the others: one account for each counter, and
  what each turn of the pool does to it.
-/

namespace ScriptGateway.Pool

variable {α β : Type}

/-! ## 1. Between two steps -/

namespace CallerPhase

/-- Whether a caller counted its job as pending, and has neither queued it nor taken that back. -/
def isSubmitting : CallerPhase β → Bool
  | counted => true
  | full => true
  | cut => true
  | _ => false

/-- Whether the next step of a caller counts its job as pending. -/
def raisesPending : CallerPhase β → Bool
  | cloned => true
  | _ => false

/-- Whether the next step of a caller no longer counts its job as pending. -/
def lowersPending : CallerPhase β → Bool
  | full => true
  | cut => true
  | _ => false

/-- Whether the rejection of a caller was counted. -/
def isRejected : CallerPhase β → Bool
  | rejected => true
  | answered (.error (.queueFull _ _)) => true
  | _ => false

/-- Whether the timeout of a caller was counted. -/
def isTimedOut : CallerPhase β → Bool
  | answered (.error (.timeout _)) => true
  | _ => false

/-- Whether a caller got the outcome of its job. -/
def isServed : CallerPhase β → Bool
  | answered (.ok _) => true
  | answered (.error (.workerPanic _)) => true
  | _ => false

end CallerPhase

namespace WorkerPhase

/-- Whether a worker has a job that it has not taken off the pending ones. -/
def isReceiving : WorkerPhase α β → Bool
  | received _ => true
  | _ => false

/-- Whether the next step of a worker counts it as busy. -/
def raisesBusy : WorkerPhase α β → Bool
  | dequeued _ => true
  | _ => false

/-- Whether a worker counts as busy. -/
def isBusy : WorkerPhase α β → Bool
  | running _ => true
  | panicked _ _ => true
  | ended _ _ => true
  | _ => false

/-- Whether the next step of a worker no longer counts it as busy. -/
def lowersBusy : WorkerPhase α β → Bool
  | ended _ _ => true
  | _ => false

/-- Whether the handler of a worker panicked, which is not counted yet. -/
def isPanicking : WorkerPhase α β → Bool
  | panicked _ _ => true
  | _ => false

/-- Whether the handler of a worker ended with a job that is not counted as executed yet. -/
def isEnding : WorkerPhase α β → Bool
  | panicked _ _ => true
  | ended _ _ => true
  | leaving _ _ => true
  | _ => false

/-- Whether a worker has a job that is not counted as executed yet. -/
def isCarrying : WorkerPhase α β → Bool
  | received _ => true
  | dequeued _ => true
  | running _ => true
  | panicked _ _ => true
  | ended _ _ => true
  | leaving _ _ => true
  | _ => false

/-- Whether a worker has yet to reply. -/
def isReplying : WorkerPhase α β → Bool
  | replying _ _ => true
  | _ => false

end WorkerPhase

/-- Whether an outcome is a panic. -/
def Outcome.isPanic : Outcome β → Bool
  | panicked _ => true
  | returned _ => false

/-! ## 2. The accounts -/

/-- The jobs that count as pending. -/
def pendingJobs : Account α β where
  booked n _ := n.pending
  settled _ := 0
  caller := CallerPhase.isSubmitting
  worker := WorkerPhase.isReceiving
  queued := true

/-- The workers that count as busy. -/
def busyWorkers : Account α β where
  booked n _ := n.busy
  settled _ := 0
  caller _ := false
  worker := WorkerPhase.isBusy
  queued := false

/-- The jobs that were accepted, settled once they count as executed. -/
def acceptedJobs : Account α β where
  booked _ r := r.accepted.length
  settled n := n.executed
  caller _ := false
  worker := WorkerPhase.isCarrying
  queued := true

/-- The jobs that ended, settled once they count as executed. -/
def endedJobs : Account α β where
  booked _ r := r.ended.length
  settled n := n.executed
  caller _ := false
  worker := WorkerPhase.isEnding
  queued := false

/-- The jobs that panicked, settled once that is counted. -/
def panickedJobs : Account α β where
  booked _ r := r.ended.countP (·.2.isPanic)
  settled n := n.panics
  caller _ := false
  worker := WorkerPhase.isPanicking
  queued := false

/-- The rejections. -/
def rejections : Account α β where
  booked n _ := n.rejected
  settled _ := 0
  caller := CallerPhase.isRejected
  worker _ := false
  queued := false

/-- The timeouts. -/
def timeouts : Account α β where
  booked n _ := n.timeouts
  settled _ := 0
  caller := CallerPhase.isTimedOut
  worker _ := false
  queued := false

/-- The outcomes that callers have or are about to be sent, out of all jobs executed. -/
def deliveries : Account α β where
  booked n _ := n.executed
  settled _ := 0
  caller := CallerPhase.isServed
  worker := WorkerPhase.isReplying
  queued := false

theorem kept_pendingJobs : (pendingJobs : Account α β).Kept where
  new := rfl
  idle := rfl
  turn := by
    intro n r taken n' r' put turn there
    unfold pendingJobs Account.held at there ⊢
    cases turn with
    | caller hm => cases hm <;> simp [CallerPhase.isSubmitting] at there ⊢; all_goals omega
    | worker hm => cases hm <;> simp [WorkerPhase.isReceiving] at there ⊢; all_goals omega
    | finish n r job outcome => cases outcome <;> rfl
    | deliver n r job outcome => cases outcome <;> rfl
    | _ => rfl

theorem kept_busyWorkers : (busyWorkers : Account α β).Kept where
  new := rfl
  idle := rfl
  turn := by
    intro n r taken n' r' put turn there
    unfold busyWorkers Account.held at there ⊢
    cases turn with
    | caller hm => cases hm <;> rfl
    | worker hm => cases hm <;> simp [WorkerPhase.isBusy] at there ⊢; all_goals omega
    | finish n r job outcome => cases outcome <;> rfl
    | _ => rfl

theorem kept_acceptedJobs : (acceptedJobs : Account α β).Kept where
  new := rfl
  idle := rfl
  turn := by
    intro n r taken n' r' put turn _
    unfold acceptedJobs Account.held
    cases turn with
    | caller hm => cases hm <;> rfl
    | worker hm => cases hm <;> simp [WorkerPhase.isCarrying]; omega
    | accept n r i => simp; omega
    | finish n r job outcome => cases outcome <;> rfl
    | _ => rfl

theorem kept_endedJobs : (endedJobs : Account α β).Kept where
  new := rfl
  idle := rfl
  turn := by
    intro n r taken n' r' put turn _
    unfold endedJobs Account.held
    cases turn with
    | caller hm => cases hm <;> rfl
    | worker hm => cases hm <;> simp [WorkerPhase.isEnding]; omega
    | finish n r job outcome =>
      cases outcome
      all_goals
        simp [WorkerPhase.isEnding, State.afterwards]
        omega
    | _ => rfl

theorem kept_panickedJobs : (panickedJobs : Account α β).Kept where
  new := rfl
  idle := rfl
  turn := by
    intro n r taken n' r' put turn _
    unfold panickedJobs Account.held
    cases turn with
    | caller hm => cases hm <;> rfl
    | worker hm => cases hm <;> simp [WorkerPhase.isPanicking]; omega
    | finish n r job outcome =>
      cases outcome
      · simp [WorkerPhase.isPanicking, State.afterwards, Outcome.isPanic]
      · simp [WorkerPhase.isPanicking, State.afterwards, Outcome.isPanic]
        omega
    | _ => rfl

theorem kept_rejections : (rejections : Account α β).Kept where
  new := rfl
  idle := rfl
  turn := by
    intro n r taken n' r' put turn _
    unfold rejections Account.held
    cases turn with
    | caller hm => cases hm <;> simp [CallerPhase.isRejected]
    | worker hm => cases hm <;> rfl
    | deliver n r job outcome => cases outcome <;> rfl
    | _ => rfl

theorem kept_timeouts : (timeouts : Account α β).Kept where
  new := rfl
  idle := rfl
  turn := by
    intro n r taken n' r' put turn _
    unfold timeouts Account.held
    cases turn with
    | caller hm => cases hm <;> simp [CallerPhase.isTimedOut]
    | worker hm => cases hm <;> rfl
    | deliver n r job outcome => cases outcome <;> rfl
    | _ => rfl

theorem covers_deliveries : (deliveries : Account α β).Covers where
  new := Nat.le_refl _
  idle := rfl
  turn := by
    intro n r taken n' r' put turn _
    unfold deliveries Account.held
    cases turn with
    | caller hm => cases hm <;> exact Nat.le_refl _
    | worker hm => cases hm <;> simp [WorkerPhase.isReplying]
    | finish n r job outcome => cases outcome <;> exact Nat.le_refl _
    | deliver n r job outcome => cases outcome <;> exact Nat.le_refl _
    | lose n r job outcome => exact Nat.le_succ _
    | _ => exact Nat.le_refl _

end ScriptGateway.Pool
