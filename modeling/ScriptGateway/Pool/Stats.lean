import ScriptGateway.Json.Value
import ScriptGateway.Pool.Machine
/-!
# Pool statistics

What a pool tells about itself, to callers and on health pages.
-/

namespace ScriptGateway.Pool

/-- The workers and the counters of a pool. -/
structure Stats where
  workers : Nat
  executed : Nat
  busy : Nat
  pending : Nat
  timeouts : Nat
  rejected : Nat
  panics : Nat
  deriving DecidableEq, Repr

/-- The statistics of a pool. -/
def State.stats {α β : Type} (s : State α β) : Stats :=
  { workers := s.settings.workers
    executed := s.counters.executed
    busy := s.counters.busy
    pending := s.counters.pending
    timeouts := s.counters.timeouts
    rejected := s.counters.rejected
    panics := s.counters.panics }

/-- Statistics as a JSON object. -/
def Stats.toJson (s : Stats) : Json.Value :=
  .object [
    ("workers", .int s.workers),
    ("total_executed", .int s.executed),
    ("busy", .int s.busy),
    ("pending", .int s.pending),
    ("timeouts", .int s.timeouts),
    ("rejected", .int s.rejected),
    ("panics", .int s.panics)]

end ScriptGateway.Pool
