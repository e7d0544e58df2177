import ScriptGateway.Executor.Error
import ScriptGateway.Http.Message
import ScriptGateway.Script.Response
/-!
# Replies

What the gateway answers after a script ran, or could not run.

* `ofScript` turns a script's response into one of HTTP; header lines that are not valid
  fields are left out.
* `ofError` says whether the client may try again.
-/

namespace ScriptGateway.Reply

/-- The field of a header pair, if its name is a token and its value has no control characters. -/
def field? (pair : String × String) : Option (String × Bytes) := do
  let name ← Http.fieldName? pair.1
  let value ← Http.fieldValue? pair.2
  return (name, value)

/-- The field that names the server's software, unless the fields have one. -/
def ensureServer (h : Http.Headers) : Http.Headers :=
  if h.contains "server" then h else h.append "server" (Bytes.ofText Http.serverSoftware)

/-- The reply with a script's response. -/
def ofScript (r : Script.Response) : Http.Response :=
  { status := Http.sendableStatus r.status
    headers := ensureServer ⟨r.headerPairs.filterMap field?⟩
    body := r.body }

/-- The reply to a request that gave no response. A full queue and a shutdown are passing; a
timeout is told apart from other failures. -/
def ofError (e : Executor.Error) : Http.Response :=
  if e.isQueueFull || e.isShutdown then
    (Http.Response.ofText 503 "503 Service Unavailable").withField "retry-after" "1"
  else if e.isTimeout then .ofText 504 "504 Gateway Timeout"
  else .ofText 500 "500 Internal Server Error"

end ScriptGateway.Reply
