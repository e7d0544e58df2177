import ScriptGateway.Pool.Machine
/-!
# Letting a pool run

Between two events from outside (a submission, the end of a handler, a caller's giving up, a
shutdown) every actor that can take a step does so, workers before callers, until all of them
wait for something.

* `State.advance?` takes the first step that can be taken.
* `State.settle` repeats that; every step but the last of an actor brings it nearer to its end,
  so the number of actors bounds the number of steps.
* `State.run` also lets handlers end, as a given handler says.
-/

namespace ScriptGateway.Pool

variable {α β ρ : Type}

/-- A handler over a state of its own: how it ends for a request on a worker, or none while it
waits for something. -/
abbrev Handler (ρ α β : Type) := Nat → α → ρ → Option (Outcome β) × ρ

namespace State

/-! ## 1. Steps without a handler -/

/-- The steps that need nothing from outside, in order of preference. -/
def ownSteps (s : State α β) : List (Action α β) :=
  (List.range s.workers.length).map .worker
    ++ (List.range s.callers.length).map .caller
    ++ (List.range s.closers.length).map .closer

/-- The state after the first step that can be taken. -/
def advance? (s : State α β) : Option (State α β) :=
  s.ownSteps.findSome? s.step?

/-- More steps than any actor takes between two events from outside. -/
def stepsPerActor : Nat := 16

/-- Takes steps while there are any; the fuel bounds their number. -/
def settleFor : Nat → State α β → State α β
  | 0, s => s
  | fuel + 1, s =>
    match s.advance? with
    | some s => settleFor fuel s
    | none => s

/-- The state in which every actor waits for something from outside. -/
def settle (s : State α β) : State α β :=
  s.settleFor (stepsPerActor * (s.ownSteps.length + s.queue.length + 1))

/-! ## 2. Steps with a handler -/

/-- Asks the handler about these workers, up to the first on which it ends. -/
def ask (handle : Handler ρ α β) (s : State α β) : List Nat → ρ → Option (Nat × Outcome β) × ρ
  | [], r => (none, r)
  | worker :: rest, r =>
    match s.running? worker with
    | none => s.ask handle rest r
    | some job =>
      match handle worker job.request r with
      | (some outcome, r) => (some (worker, outcome), r)
      | (none, r) => s.ask handle rest r

/-- Lets handlers end while one can; the fuel bounds their number. -/
def runFor (handle : Handler ρ α β) : Nat → State α β → ρ → State α β × ρ
  | 0, s, r => (s.settle, r)
  | fuel + 1, s, r =>
    let s := s.settle
    match s.ask handle (List.range s.workers.length) r with
    | (some (worker, outcome), r) =>
      runFor handle fuel ((s.step? (.finish worker outcome)).getD s) r
    | (none, r) => (s, r)

/-- Lets the pool run until every actor waits for something from outside, or for the handler,
which waits itself. No caller has more than one job, so no more handlers end than there are
callers. -/
def run (handle : Handler ρ α β) (s : State α β) (r : ρ) : State α β × ρ :=
  s.runFor handle s.callers.length r

end State

end ScriptGateway.Pool
