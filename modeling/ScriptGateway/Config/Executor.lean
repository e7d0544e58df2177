import ScriptGateway.Config.Environment
/-!
# Configuration of the worker pool

Zero workers stand for one per processor, a zero capacity for a hundred times the workers.
Both numbers are settled here and never zero.
-/

namespace ScriptGateway.Config

/-- The processors that workers run on if their number is not set: the gateway keeps to one, where
nothing else is said. -/
def processors : Nat := 1

/-- The queue places per worker if no capacity is set. -/
def queuePerWorker : Nat := 100

/-- Workers, queue and time limit. -/
structure Executor where
  workers : Nat
  capacity : Nat
  /-- The limit on one execution; none waits forever. -/
  timeout : Option Duration
  workers_pos : 0 < workers
  capacity_pos : 0 < capacity

namespace Executor

/-- Workers for a configured number, on so many processors. -/
def settleWorkers (processors n : Nat) : Nat :=
  if n = 0 then max processors 1 else n

/-- Queue capacity for a configured number and settled workers, cut to 64 bits. -/
def settleCapacity (n workers : Nat) : Nat :=
  if n = 0 then min (workers * queuePerWorker) (Decimal.wordLimit - 1) else n

theorem settleWorkers_pos (processors n : Nat) : 0 < settleWorkers processors n := by
  unfold settleWorkers
  split <;> omega

theorem settleCapacity_pos (n workers : Nat) (h : 0 < workers) : 0 < settleCapacity n workers := by
  unfold settleCapacity queuePerWorker Decimal.wordLimit
  split <;> omega

/-- The settled numbers for configured ones, on so many processors. -/
def settleOn (processors workers capacity : Nat) (timeout : Option Duration) : Executor :=
  { workers := settleWorkers processors workers
    capacity := settleCapacity capacity (settleWorkers processors workers)
    timeout
    workers_pos := settleWorkers_pos processors workers
    capacity_pos := settleCapacity_pos capacity _ (settleWorkers_pos processors workers) }

/-- The settled numbers for configured ones. -/
def settle (workers capacity : Nat) (timeout : Option Duration) : Executor :=
  settleOn processors workers capacity timeout

/-- Reads the pool's part of the configuration, for so many processors. -/
def ofEnvironment (processors : Nat) (env : Environment) : Except Error Executor := do
  let workers ← env.count "PHP_WORKERS" 0
  let capacity ← env.count "QUEUE_CAPACITY" 0
  let timeout ← env.span "REQUEST_TIMEOUT" "2m"
  return settleOn processors workers capacity timeout

end Executor

end ScriptGateway.Config
