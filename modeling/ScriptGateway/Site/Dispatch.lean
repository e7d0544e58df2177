import ScriptGateway.Executor.Run
import ScriptGateway.Site.Asset
import ScriptGateway.Site.Health
import ScriptGateway.Site.Reply
import ScriptGateway.Site.ScriptRequest
/-!
# Answering requests

A request is answered by a health check, by a file, or by the site's script. Health checks
come first and take any method; files are sent for `GET` and `HEAD` only; all else goes to
the executor, once the body was read. A response to `HEAD` has no body.

* `Front.begin` answers a request, or hands a script request to the executor.
* `Front.conclude` answers with what the executor made of it.
* `Front.handle` does both, and logs the `accessEvent` of the answer.
-/

namespace ScriptGateway

/-- What the gateway answers requests with. -/
structure Front where
  site : Site
  tree : Files.Tree
  /-- Where the document root lies in the tree. -/
  root : Files.Location
  /-- The `Cache-Control` value of files. -/
  cacheControl : Option String

namespace Front

/-- What answers a request. -/
inductive Route where
  | health (check : Health.Check)
  | asset (file : Files.Location)
  | script
  deriving DecidableEq, Repr

/-- Whether a method asks for a file. -/
def asksForFile (m : Http.Method) : Bool :=
  m = .get || m = .head

/-- The file that answers a request, if one does. -/
def asset? (f : Front) (m : Http.Method) (path : String) : Option Files.Location :=
  if asksForFile m then Asset.resolve? f.tree f.root path else none

/-- What answers a request for a path. -/
def route (f : Front) (m : Http.Method) (path : String) : Route :=
  match Health.Check.ofPath? path with
  | some check => .health check
  | none =>
    match f.asset? m path with
    | some file => .asset file
    | none => .script

/-- The response as it is sent to a request with that method. -/
def trim (m : Http.Method) (r : Http.Response) : Http.Response :=
  if m = .head then r.withoutBody else r

/-- What is told of one answer. -/
structure Answer where
  response : Http.Response
  /-- The thread index of the worker that ran the script, if one did. -/
  worker : Option Int32
  /-- What is logged, in order. -/
  events : List Log.Event

/-- An answer without a script. -/
def plain (m : Http.Method) (r : Http.Response) : Answer :=
  { response := trim m r, worker := none, events := [] }

/-- The beginning of an answer: complete, or waiting for the executor. -/
inductive Progress where
  | answered (a : Answer)
  | forwarded (request : Script.Request)

/-- Answers a request as far as the executor is not needed. The body is none if it could not
be read. -/
def begin (f : Front) (report : Health.Report) (uptime : Duration) (peer : Peer) (now : Duration)
    (r : Http.Request) (body : Option Bytes) : Progress :=
  match f.route r.method r.target.path with
  | .health check => .answered (plain r.method (Health.response check report uptime))
  | .asset file => .answered (plain r.method (Asset.serve f.tree f.cacheControl file))
  | .script =>
    match body with
    | some body => .forwarded (f.site.scriptRequest r body peer now)
    | none => .answered (plain r.method .badRequest)

/-- Whether a failure lies in the load of the gateway, and not in the script. -/
def isRejection (e : Executor.Error) : Bool :=
  e.isQueueFull || e.isTimeout || e.isShutdown

/-- The event that reports a failure. -/
def failureEvent (path : String) (e : Executor.Error) : Log.Event :=
  let fields := [("error", Log.FieldValue.shown e.message), ("path", Log.FieldValue.shown path)]
  if isRejection e then Log.gatewayEvent .warn "request rejected" fields
  else Log.gatewayEvent .error "script execution failed" fields

/-- Answers with what the executor made of a script request. -/
def conclude (r : Http.Request) (result : Except Executor.Error Executor.Result) : Answer :=
  match result with
  | .ok result =>
    { response := trim r.method (Reply.ofScript result.response)
      worker := some result.thread
      events := [] }
  | .error e =>
    { response := trim r.method (Reply.ofError e)
      worker := none
      events := [failureEvent r.target.path e] }

/-- The log record of a request that was answered after so many milliseconds. -/
def accessEvent (peer : Peer) (millis : Float) (r : Http.Request) (a : Answer) : Log.Event :=
  { target := Log.accessTarget
    level := .info
    fields := [
      ("method", .shown r.method.name),
      ("path", .shown r.target.path),
      ("query", .text (r.target.query?.getD "")),
      ("http", .text r.version.name),
      ("status", .int a.response.status),
      ("bytes", .int a.response.body.length),
      ("duration_ms", .float millis),
      ("ip", .shown peer.remote.ip.toText),
      ("worker", .int ((a.worker.map Int32.toInt).getD (-1)))] }

/-- An answer whose record is logged, after all else. -/
def Answer.recorded (a : Answer) (peer : Peer) (millis : Float) (r : Http.Request) : Answer :=
  { a with events := a.events ++ [accessEvent peer millis r a] }

/-- Answers a request on an executor, in so many milliseconds. -/
def handle (f : Front) (report : Health.Report) (uptime : Duration) (peer : Peer) (now : Duration)
    (millis : Float) (execute : Script.Request → Except Executor.Error Executor.Result)
    (r : Http.Request) (body : Option Bytes) : Answer :=
  match f.begin report uptime peer now r body with
  | .answered a => a.recorded peer millis r
  | .forwarded request => (conclude r (execute request)).recorded peer millis r

end Front

end ScriptGateway
