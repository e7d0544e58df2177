import ScriptGateway.Pool.Schedule
/-!
# Time limits

A pool in time, for callers that may give up. The clock stands still while the pool works, and
moves when someone waits for a caller that has no answer yet: on to that caller's deadline.
Whoever has a deadline by then gives up.

* `Timeline.submit` lets a caller arrive, and `Timeline.await` waits for its answer.
-/

namespace ScriptGateway.Pool

/-! ## 1. The clock -/

/-- The time in milliseconds, and the deadlines of the callers that have one. -/
structure Clock where
  now : Nat
  deadlines : List (Nat × Nat)
  deriving DecidableEq, Repr

namespace Clock

/-- A clock before the first caller. -/
def start : Clock :=
  { now := 0, deadlines := [] }

/-- A caller arrives. Its deadline is counted from now. -/
def expect (c : Clock) (caller : Nat) (limit : Option Duration) : Clock :=
  match limit with
  | some limit => { c with deadlines := c.deadlines ++ [(caller, c.now + limit.toMillis)] }
  | none => c

/-- Moves on to the deadline of a caller, and tells who gives up by then. A caller without a
limit is waited for in vain. -/
def moveOn? (c : Clock) (caller : Nat) : Option (List Nat × Clock) :=
  (c.deadlines.lookup caller).map fun deadline =>
    let now := max c.now deadline
    let late := c.deadlines.filter (·.2 ≤ now)
    (late.map (·.1), { now, deadlines := c.deadlines.filter (now < ·.2) })

end Clock

/-! ## 2. A pool in time -/

/-- A pool, the state of its handler, and the time. -/
structure Timeline (ρ α β : Type) where
  handler : Handler ρ α β
  pool : State α β
  inner : ρ
  clock : Clock

namespace Timeline

variable {ρ α β : Type}

/-- Lets things happen to the pool, and the pool run after them. -/
def act (t : Timeline ρ α β) (actions : List (Action α β)) : Timeline ρ α β :=
  let pool := actions.foldl (fun pool a => (pool.step? a).getD pool) t.pool
  let (pool, inner) := pool.run t.handler t.inner
  { t with pool, inner }

/-- A pool before the first caller, with its workers waiting. -/
def new (settings : Settings) (handler : Handler ρ α β) (inner : ρ) : Timeline ρ α β :=
  act { handler, pool := .new settings, inner, clock := .start } []

/-- A caller arrives; its number comes first. -/
def submit (t : Timeline ρ α β) (request : α) (limit : Option Duration) :
    Nat × Timeline ρ α β :=
  let caller := t.pool.callers.length
  (caller, { t.act [.submit request limit] with clock := t.clock.expect caller limit })

/-- The answer of a caller, which may have to give up first. There is none if it has no limit
and everyone waits. -/
def await (t : Timeline ρ α β) (caller : Nat) : Option (Except Error β) × Timeline ρ α β :=
  match t.pool.answer? caller, t.clock.moveOn? caller with
  | none, some (late, clock) =>
    let t := { t.act (late.map .expire) with clock }
    (t.pool.answer? caller, t)
  | answer, _ => (answer, t)

end Timeline

end ScriptGateway.Pool
