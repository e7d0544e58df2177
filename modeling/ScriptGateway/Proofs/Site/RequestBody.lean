import ScriptGateway.Proofs.Executor.Request
import ScriptGateway.Proofs.Script.Reading
import ScriptGateway.Site.ScriptRequest
/-!
# The body of a request, as its script reads it

The body takes another form three times on its way: without any byte it is left out of the script
request, put into the context it is no body again, and a context without a body asks the host. A
script reads it all the same, byte by byte and to the end.

* `body_opening`: the context on which a script begins holds the body, of which nothing was read.
* `BodyFidelity`, `body_fidelity`: what a script reads, however it asks.
-/

namespace ScriptGateway.Executor

open Script (Move ReadOut Session)
open WorkerHost

/-! ## 1. From the request into the context -/

/-- The workers' host has no bodies of its own. -/
theorem bodiless_operations : operations.Bodiless :=
  fun _ _ _ => rfl

/-- A body without any byte is left out, which comes to the same. -/
theorem body_scriptRequest (site : Site) (r : Http.Request) (body : Bytes) (peer : Peer)
    (now : Duration) : (site.scriptRequest r body peer now).body.getD [] = body := by
  show (if body.isEmpty then none else some body).getD [] = body
  cases body <;> rfl

/-- **The context on which a script begins holds the body of its request.** -/
theorem body_opening (host : WorkerHost) (thread : Int32) (request : Script.Request) :
    (opening host thread request).context.body = .ofBytes (request.body.getD []) :=
  rfl

/-- A request that is not refused begins on such a context. -/
theorem opening_of_enter {c core : Core} {w : Nat} {request : Script.Request}
    {session : Session WorkerHost} (h : c.enter w request = (core, .ok session)) :
    session = opening c.host (threadOf w) request := by
  have entry := c.entry w request
  rw [h] at entry
  cases entry
  rfl

/-! ## 2. What the script reads -/

/-- **A body as the script reads it.** -/
structure BodyFidelity (backend : Engine.Backend) (body : Bytes) (session : Session WorkerHost) :
    Prop where
  /-- Whatever sizes are asked for, and whatever is done in between. -/
  any : ∀ moves : List (Move WorkerHost), moves.all Move.leavesBody = true →
    ReadOut body (session.pieces operations moves) (session.moved operations moves).context.body
  /-- And so by every interpreter. -/
  script : ∀ interpreter : Script.Interpreter,
    ReadOut body
      (session.pieces operations
        ((State.programOf backend interpreter session.script).moves operations session))
      (Engine.Bridge.run operations backend interpreter session).2.context.body

/-- **A script reads the body of its request**, as much of it as it asks for, in order and up to
the end. A body that is put into any context is read from its beginning, whatever was read before
it. -/
theorem body_fidelity (site : Site) (r : Http.Request) (body : Bytes) (peer : Peer)
    (now : Duration) (c : Core) (w : Nat) :
    (∀ (core : Core) (session : Session WorkerHost),
      c.enter w (site.scriptRequest r body peer now) = (core, .ok session) →
        BodyFidelity core.engine.bridge.backend body session) ∧
      ∀ (s : Session WorkerHost) (before : List (Move WorkerHost)) (next : Bytes)
        (moves : List (Move WorkerHost)), moves.all Move.leavesBody = true →
          ReadOut next
            ((s.moved operations (before ++ [.put next])).pieces operations moves)
            (s.moved operations (before ++ .put next :: moves)).context.body := by
  refine ⟨fun core session he => ?_, fun s before next moves hm =>
    Session.readOut_put (.inl bodiless_operations) s before hm⟩
  have there : session.context.body = .ofBytes body := by
    rw [opening_of_enter he, body_opening, body_scriptRequest]
  have any (moves : List (Move WorkerHost)) (hm : moves.all Move.leavesBody = true) :
      ReadOut body (session.pieces operations moves)
        (session.moved operations moves).context.body :=
    Session.readOut_moved (.inl bodiless_operations) there hm
  refine ⟨any, fun interpreter => ?_⟩
  rw [run_programOf, Script.Program.run_moved]
  exact any _ (Script.Program.leavesBody_moves _ _ _)

/-- A site whose script takes forms. -/
def formSite : Site :=
  .new "/srv" "/form.php"

/-- A form that was sent. -/
def sentForm : Http.Request :=
  { method := ⟨"POST"⟩
    target := .origin { path := "/".toList, query := none }
    version := .http11
    headers := .empty }

/-- Both ends on one machine. -/
def loopback : Peer :=
  { remote := { ip := .v4 127 0 0 1, port := 50000, scope := 0 }
    localEnd := { ip := .v4 127 0 0 1, port := 8080, scope := 0 } }

/-- The script request for a form of five bytes. -/
def formRequest : Script.Request :=
  formSite.scriptRequest sentForm [97, 98, 99, 100, 101] loopback { seconds := 0, nanos := 0 }

/-- A core on which nothing ran. -/
def idleCore : Core :=
  { engine := startedEngine, host := .new 1 }

/-- Two bytes, no byte, and more than there are, with other things in between. -/
def someReads : List (Move WorkerHost) :=
  [.ask (.readBody 2), .ask (.write [33]), .ask (.readBody 0), .elsewhere (.new 1), .ask .look,
    .ask (.readBody 9)]

/-- The form is read to its end, and then the one that is put in its place. -/
theorem body_fidelity_form : ∃ (core : Core) (session : Session WorkerHost),
    idleCore.enter 0 formRequest = (core, .ok session) ∧
      Script.received (session.pieces operations someReads) = [97, 98, 99, 100, 101] ∧
      Script.received ((session.moved operations (someReads ++ [.put [33, 33]])).pieces operations
        someReads) = [33, 33] := by
  obtain ⟨delivered, replaced⟩ := body_fidelity formSite sentForm [97, 98, 99, 100, 101] loopback
    { seconds := 0, nanos := 0 } idleCore 0
  have entered : idleCore.enter 0 formRequest =
      (idleCore.bound (threadOf 0) formRequest,
        .ok (opening idleCore.host (threadOf 0) formRequest)) :=
    Core.enter_opened rfl (by decide +kernel) rfl
  refine ⟨_, _, entered, ?_, ?_⟩
  · exact ((delivered _ _ entered).any someReads rfl).all
  · exact (replaced _ someReads [33, 33] someReads rfl).all

end ScriptGateway.Executor
