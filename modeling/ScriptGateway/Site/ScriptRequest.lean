import ScriptGateway.Decimal.Shortest
import ScriptGateway.Http.Message
import ScriptGateway.Net.Address
import ScriptGateway.Script.Request
import ScriptGateway.Site.Site
import ScriptGateway.Time.Duration
/-!
# From HTTP requests to script requests

A script learns of the request through variables: those of the common gateway interface in a
fixed order, then one for each header field.

* `headerVariables` are the variables of the header fields, `vars` all of them.
* `Site.scriptRequest` is the request to run the site's script.
-/

namespace ScriptGateway

open Script (Variable)

/-- Both ends of a connection. -/
structure Peer where
  remote : Net.SocketAddress
  localEnd : Net.SocketAddress

namespace Site

/-- The variable of a header field: `X-Forwarded-For` becomes `HTTP_X_FORWARDED_FOR`. -/
def headerVariable (name : String) : String :=
  "HTTP_" ++ String.ofList
    (name.toList.map fun c => if c = '-' then '_' else Text.asciiUpper c)

/-- The interface between gateway and script. -/
def gatewayInterface : String := "CGI/1.1"

/-- The host that the client asked for: that of the `Host` field if it is an authority, else
that of the target, else the address at which the request arrived. -/
def serverName (r : Http.Request) (peer : Peer) : String :=
  let named := do
    let value ← r.headers.first? "host"
    let text ← Http.visibleText? value
    Http.Authority.read? text.toList
  match named with
  | some a => a.host
  | none =>
    match r.target.authority? with
    | some a => a.host
    | none => peer.localEnd.ip.toText

/-- Seconds since 1970 with six decimals. -/
def fractionalSeconds (now : Duration) : String :=
  match Decimal.Parts.ofFloat now.toFloat with
  | some parts => String.ofList (Decimal.fixed 6 parts)
  | none => ""

/-- The variables that every request has. -/
def commonVariables (s : Site) (r : Http.Request) (peer : Peer) (now : Duration) :
    List Variable :=
  [ ("REQUEST_METHOD", r.method.name),
    ("REQUEST_URI", r.target.pathAndQuery?.getD "/"),
    ("QUERY_STRING", r.target.query?.getD ""),
    ("SERVER_PROTOCOL", r.version.name),
    ("SERVER_NAME", serverName r peer),
    ("SERVER_ADDR", peer.localEnd.ip.toText),
    ("SERVER_PORT", toString peer.localEnd.port),
    ("SERVER_SOFTWARE", Http.serverSoftware),
    ("GATEWAY_INTERFACE", gatewayInterface),
    ("DOCUMENT_ROOT", s.documentRoot),
    ("SCRIPT_NAME", s.scriptName),
    ("SCRIPT_FILENAME", s.scriptFile),
    ("PHP_SELF", s.scriptName),
    ("REMOTE_ADDR", peer.remote.ip.toText),
    ("REMOTE_PORT", toString peer.remote.port),
    ("REQUEST_TIME", toString now.seconds),
    ("REQUEST_TIME_FLOAT", fractionalSeconds now) ]

/-- The variable for the type of the body, if the client gave one. -/
def contentTypeVariable (h : Http.Headers) : List Variable :=
  match h.first? "content-type" with
  | some value => [("CONTENT_TYPE", value.toTextLossy)]
  | none => []

/-- The variable for the length of the body: what the client said, else the true length of a
body that is not empty. -/
def contentLengthVariable (h : Http.Headers) (body : Bytes) : List Variable :=
  match h.first? "content-length" with
  | some value => [("CONTENT_LENGTH", value.toTextLossy)]
  | none => if body.isEmpty then [] else [("CONTENT_LENGTH", toString body.length)]

/-- The variables of the header fields, one for each name. Cookies are joined as such. -/
def headerVariables (h : Http.Headers) : List Variable :=
  (h.names.filter fun name => name ≠ "content-type" ∧ name ≠ "content-length").map fun name =>
    (headerVariable name,
      if name = "cookie" then h.cookies?.getD "" else h.joined name ", ")

/-- All variables of a request. -/
def vars (s : Site) (r : Http.Request) (body : Bytes) (peer : Peer) (now : Duration) :
    List Variable :=
  s.commonVariables r peer now ++ contentTypeVariable r.headers
    ++ contentLengthVariable r.headers body ++ headerVariables r.headers

/-- The request to run the site's script. -/
def scriptRequest (s : Site) (r : Http.Request) (body : Bytes) (peer : Peer) (now : Duration) :
    Script.Request :=
  { script := s.entryPoint
    documentRoot := some s.documentRoot
    scriptPath := some s.scriptFile
    vars := s.vars r body peer now
    body := if body.isEmpty then none else some body
    cookies := r.headers.cookies? }

end Site

end ScriptGateway
