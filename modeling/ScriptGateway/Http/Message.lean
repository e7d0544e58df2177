import ScriptGateway.Http.Headers
import ScriptGateway.Http.Target
/-!
# Requests and responses

* `Request` is what the gateway was asked, `Response` what it answers.
* `Response.ofText` is a response in plain text; every response names the server's software.
-/

namespace ScriptGateway.Http

/-- Versions of the protocol. -/
inductive Version where
  | http09
  | http10
  | http11
  | http2
  | http3
  deriving DecidableEq, Repr

/-- The name of a version as scripts see it. -/
def Version.name : Version → String
  | .http09 => "HTTP/0.9"
  | .http10 => "HTTP/1.0"
  | .http11 => "HTTP/1.1"
  | .http2 => "HTTP/2.0"
  | .http3 => "HTTP/3.0"

/-- A method: a token. -/
structure Method where
  name : String
  deriving DecidableEq, Repr

namespace Method

/-- Reads a method. -/
def read? (s : String) : Option Method :=
  if isToken s.toList then some ⟨s⟩ else none

/-- Asks for a resource. -/
def get : Method := ⟨"GET"⟩

/-- Asks for what describes a resource. -/
def head : Method := ⟨"HEAD"⟩

end Method

/-- A request without its body. -/
structure Request where
  method : Method
  target : Target
  version : Version
  headers : Headers

/-- A response. -/
structure Response where
  status : Nat
  headers : Headers
  body : Bytes
  deriving DecidableEq, Repr

/-- The gateway as named to clients and scripts. -/
def serverSoftware : String := "php_embed_bridge/0.1.0"

/-- A status to send; one that is not three digits long becomes 500. -/
def sendableStatus (status : Nat) : Nat :=
  if 100 ≤ status ∧ status ≤ 999 then status else 500

namespace Response

/-- A response with a content type, naming the server's software. -/
def ofContent (status : Nat) (contentType : String) (body : Bytes) : Response :=
  { status
    headers := (Headers.empty.append "content-type" (Bytes.ofText contentType)).append "server"
      (Bytes.ofText serverSoftware)
    body }

/-- A response in plain text. -/
def ofText (status : Nat) (message : String) : Response :=
  ofContent status "text/plain; charset=utf-8" (Bytes.ofText message)

/-- One more header field. -/
def withField (r : Response) (name value : String) : Response :=
  { r with headers := r.headers.append name (Bytes.ofText value) }

/-- The response without its body. -/
def withoutBody (r : Response) : Response :=
  { r with body := [] }

/-- The answer to a request whose body could not be read. -/
def badRequest : Response :=
  ofText 400 "Failed to read request body"

end Response

end ScriptGateway.Http
