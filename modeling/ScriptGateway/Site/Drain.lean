import ScriptGateway.Log.Event
/-!
# Connections and their end

The gateway accepts connections until it is told to stop, or until the loop that accepts them is
dropped. Each connection gets a task of its own, and only the task's first step counts the
connection as active. Whoever stops the gateway then waits until no connection is active, or until
the time is up.

* `Connections.step?` carries out one step, if it can be taken now.
* `Connections.Reachable` is what any order of steps leads to.
* `Connections.drainEvents` is what is logged of those that did not end in time.
-/

namespace ScriptGateway

/-- Where the task of a connection stands. -/
inductive Task where
  /-- It was started; the connection is not counted yet. -/
  | started
  /-- The connection is counted, and its requests are answered. -/
  | active
  /-- Everything was answered; the connection is no longer counted. -/
  | finished
  deriving DecidableEq, Repr

/-- Where the loop that accepts connections stands. -/
inductive Acceptor where
  /-- Before it looks whether to stop. -/
  | starting
  /-- It waits for connections. -/
  | accepting
  /-- It has a connection and is about to start its task. -/
  | holding
  | stopped
  deriving DecidableEq, Repr

/-- Where someone who waits for the end stands. -/
inductive Waiter where
  /-- About to look how many connections are active. -/
  | polling
  /-- It saw so many. -/
  | saw (active : Nat)
  /-- It gave its answer: whether no connection was active. -/
  | answered (drained : Bool)
  deriving DecidableEq, Repr

/-- The connections of a gateway. -/
structure Connections where
  stopAsked : Bool
  active : Nat
  acceptor : Acceptor
  tasks : List Task
  waiters : List Waiter
  deriving DecidableEq, Repr

namespace Connections

/-- Before the first connection. -/
def new : Connections :=
  { stopAsked := false, active := 0, acceptor := .starting, tasks := [], waiters := [] }

/-- A step of the acceptor, of a task, or of someone who stops the gateway. -/
inductive Action where
  /-- The loop that accepts connections is run, again perhaps. -/
  | run
  /-- The loop looks whether to stop. -/
  | look
  /-- The loop accepts a connection. -/
  | accept
  /-- The loop starts the task of the connection. -/
  | spawn
  /-- Whoever runs the loop drops it while it waits. -/
  | abandon
  /-- A task takes its next step. -/
  | task (index : Nat)
  /-- Someone asks the gateway to stop. -/
  | askToStop
  /-- Someone begins to wait for the end. -/
  | wait
  /-- Someone who waits looks how many connections are active. -/
  | poll (index : Nat)
  /-- Someone who waits answers, or is about to look again. -/
  | decide (index : Nat) (timeIsUp : Bool)
  deriving DecidableEq, Repr

/-- The next step of a task. -/
def taskStep? (c : Connections) (index : Nat) : Task → Option Connections
  | .started => some { c with tasks := c.tasks.set index .active, active := c.active + 1 }
  | .active => some { c with tasks := c.tasks.set index .finished, active := c.active - 1 }
  | .finished => none

/-- What someone who saw so many active connections does next. -/
def decision (active : Nat) (timeIsUp : Bool) : Waiter :=
  if active = 0 then .answered true else if timeIsUp then .answered false else .polling

/-- Carries out a step, if it can be taken now. -/
def step? (c : Connections) : Action → Option Connections
  | .run => if c.acceptor = .stopped then some { c with acceptor := .starting } else none
  | .look =>
    match c.acceptor with
    | .starting => some { c with acceptor := if c.stopAsked then .stopped else .accepting }
    | .accepting => if c.stopAsked then some { c with acceptor := .stopped } else none
    | _ => none
  | .accept => if c.acceptor = .accepting then some { c with acceptor := .holding } else none
  | .spawn =>
    if c.acceptor = .holding then
      some { c with acceptor := .accepting, tasks := c.tasks ++ [.started] }
    else none
  | .abandon => if c.acceptor = .accepting then some { c with acceptor := .stopped } else none
  | .task index => c.tasks[index]?.bind (c.taskStep? index)
  | .askToStop => some { c with stopAsked := true }
  | .wait => some { c with waiters := c.waiters ++ [.polling] }
  | .poll index =>
    match c.waiters[index]? with
    | some .polling => some { c with waiters := c.waiters.set index (.saw c.active) }
    | _ => none
  | .decide index timeIsUp =>
    match c.waiters[index]? with
    | some (.saw active) =>
      some { c with waiters := c.waiters.set index (decision active timeIsUp) }
    | _ => none

/-- The states that any order of steps leads to. -/
inductive Reachable : Connections → Prop where
  | start : Reachable new
  | step {c c' : Connections} (h : Reachable c) (a : Action) (hs : c.step? a = some c') :
      Reachable c'

/-- What is logged of connections that did not end in time: so many were active at the last look,
and so many are still open. -/
def drainEvents (active stillOpen : Nat) : List Log.Event :=
  match decision active true with
  | .answered false =>
    [ Log.gatewayEvent .warn
        ("Drain timeout reached with " ++ toString active ++ " active connections") [],
      Log.gatewayEvent .warn
        ("Closing with " ++ toString stillOpen ++ " connections still open") [] ]
  | _ => []

end Connections

end ScriptGateway
