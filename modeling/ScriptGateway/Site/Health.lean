import ScriptGateway.Engine.Mode
import ScriptGateway.Http.Message
import ScriptGateway.Json.Printer
import ScriptGateway.Pool.Stats
/-!
# Health pages

Two checks are answered by the gateway itself, before any script: whether it is alive, and
whether it is ready for requests. Each has two paths.
-/

namespace ScriptGateway.Health

/-- What is checked. -/
inductive Check where
  | liveness
  | readiness
  deriving DecidableEq, Repr

/-- The check at a path. -/
def Check.ofPath? (path : String) : Option Check :=
  if path = "/health" ∨ path = "/healthz" then some .liveness
  else if path = "/ready" ∨ path = "/readyz" then some .readiness
  else none

/-- What the executor tells about itself. -/
structure Report where
  ready : Bool
  mode : Engine.Mode
  backend : String
  stats : Option Pool.Stats

/-- The word that a check comes to. -/
def word (check : Check) (ready : Bool) : String :=
  match check with
  | .liveness => "ok"
  | .readiness => if ready then "ready" else "not_ready"

/-- The status that a check comes to. -/
def status (check : Check) (ready : Bool) : Nat :=
  match check with
  | .liveness => 200
  | .readiness => if ready then 200 else 503

/-- The page of a check. -/
def page (check : Check) (r : Report) (uptime : Duration) : Json.Value :=
  .object <|
    [ ("status", .text (word check r.ready)),
      ("uptime_seconds", .float uptime.toFloat),
      ("mode", .text r.mode.name),
      ("backend", .text r.backend) ]
    ++ (r.stats.map fun s => ("workers", s.toJson)).toList

/-- The response of a check. -/
def response (check : Check) (r : Report) (uptime : Duration) : Http.Response :=
  { status := status check r.ready
    headers := ⟨[("content-type", Bytes.ofText "application/json"),
      ("cache-control", Bytes.ofText "no-store"),
      ("server", Bytes.ofText Http.serverSoftware)]⟩
    body := Bytes.ofText (page check r uptime).toText }

end ScriptGateway.Health
