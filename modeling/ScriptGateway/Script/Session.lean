import ScriptGateway.Script.Context
import ScriptGateway.Script.Host
/-!
# Sessions

While a script runs, a session stands between the interpreter, the context and the host.
Every operation of the interpreter is one `Operation`; its answer depends on the operation.

* `Operation.Answer` is the type of the answer to an operation.
* `Session.perform` carries one operation out.
-/

namespace ScriptGateway.Script

/-! ## 1. Operations -/

/-- What an interpreter may ask of its session. -/
inductive Operation where
  | write (data : Bytes)
  | setStatus (status : Nat)
  | addHeader (line : String)
  | replaceHeader (line : String)
  | removeHeader (name : String)
  | clearHeaders
  | sendHeaders
  | readBody (size : Nat)
  | readCookies
  | log (message : String) (priority : Priority)
  /-- Asks for what can be seen of the context. -/
  | look
  deriving DecidableEq, Repr

/-- What an interpreter sees of its context. -/
structure View where
  thread : Int32
  script : String
  scriptPath : Option String
  documentRoot : Option String
  vars : List Variable
  headers : Bytes
  status : Nat
  deriving DecidableEq, Repr

/-- The answer to an operation. -/
abbrev Operation.Answer : Operation → Type
  | write _ => Nat
  | setStatus _ => Unit
  | addHeader _ => Unit
  | replaceHeader _ => Unit
  | removeHeader _ => Unit
  | clearHeaders => Unit
  | sendHeaders => Bool
  | readBody _ => Bytes
  | readCookies => Option String
  | log _ _ => Unit
  | look => View

/-- The context of a session, the script it runs and the state of the host. -/
structure Session (σ : Type) where
  script : String
  context : Context
  host : σ

namespace Session

variable {σ : Type}

/-- What the interpreter sees. -/
def view (s : Session σ) : View :=
  { thread := s.context.thread
    script := s.script
    scriptPath := s.context.scriptPath
    documentRoot := s.context.documentRoot
    vars := s.context.vars
    headers := s.context.headerBytes
    status := s.context.status }

/-- Adds output to the context and passes it on to the host. Nothing is done for no data. -/
def write (h : Host σ) (data : Bytes) (s : Session σ) : Nat × Session σ :=
  if data.isEmpty then (0, s)
  else
    let (_, host) := h.writeOutput s.context.thread data s.host
    (data.length, { s with context := s.context.appendOutput data, host })

/-- Reads from the body in the context, or from the host if there is none. -/
def readBody (h : Host σ) (size : Nat) (s : Session σ) : Bytes × Session σ :=
  if size = 0 then ([], s)
  else if s.context.body.isPresent then
    let (data, context) := s.context.readBody size
    (data, { s with context })
  else
    let (data, host) := h.readBody s.context.thread size s.host
    (data, { s with host })

/-- Passes a message on to the host. -/
def log (h : Host σ) (message : String) (priority : Priority) (s : Session σ) : Session σ :=
  { s with host := h.logMessage s.context.thread message priority s.host }

/-- Carries out one operation. -/
def perform (h : Host σ) : (op : Operation) → Session σ → op.Answer × Session σ
  | .write data, s => s.write h data
  | .setStatus status, s => ((), { s with context := s.context.setStatus status })
  | .addHeader line, s => ((), { s with context := s.context.addHeader line })
  | .replaceHeader line, s => ((), { s with context := s.context.replaceHeader line })
  | .removeHeader name, s => ((), { s with context := s.context.removeHeader name })
  | .clearHeaders, s => ((), { s with context := s.context.clearHeaders })
  | .sendHeaders, s =>
    let (delivered, host) :=
      h.sendHeaders s.context.thread s.context.status s.context.headerBytes s.host
    (delivered, { s with host })
  | .readBody size, s => s.readBody h size
  | .readCookies, s =>
    let (cookies, host) := h.readCookies s.context.thread s.host
    (cookies, { s with host })
  | .log message priority, s => ((), s.log h message priority)
  | .look, s => (s.view, s)

end Session

end ScriptGateway.Script
