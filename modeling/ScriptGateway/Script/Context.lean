import ScriptGateway.Script.Response
import ScriptGateway.Text.Quoted
/-!
# Contexts

A context holds what one execution reads (variables, paths and the request body) and what it
produces (output, header block and status). It lives as long as its owner likes and can be
executed more than once.

* `Body.read` hands out the body in pieces; `Body.position` and `Body.remaining` say how far.
* `Context.addHeader` and its companions edit the header block.
* `Context.resetOutput` is where each execution starts from.
-/

namespace ScriptGateway.Script

/-- A name with its value. -/
abbrev Variable := String × String

/-! ## 1. Request bodies -/

/-- A request body, cut where reading stands. Without any byte there is no body. -/
structure Body where
  consumed : Bytes
  unread : Bytes
  deriving DecidableEq, Repr

namespace Body

/-- A body of which nothing was read. -/
def ofBytes (content : Bytes) : Body :=
  { consumed := [], unread := content }

/-- No body. -/
def none : Body :=
  ofBytes []

/-- The whole body. -/
def content (b : Body) : Bytes :=
  b.consumed ++ b.unread

/-- Whether there is a body, read or not. -/
def isPresent (b : Body) : Bool :=
  !b.content.isEmpty

/-- Where reading stands: so many bytes were handed out. -/
def position (b : Body) : Nat :=
  b.consumed.length

/-- How many bytes are left. -/
def remaining (b : Body) : Nat :=
  b.content.length - b.position

/-- Takes up to `size` bytes. -/
def read (b : Body) (size : Nat) : Bytes × Body :=
  (b.unread.take size,
    { consumed := b.consumed ++ b.unread.take size, unread := b.unread.drop size })

end Body

/-! ## 2. Contexts -/

/-- What one execution reads and produces. -/
structure Context where
  thread : Int32
  documentRoot : Option String
  scriptPath : Option String
  body : Body
  /-- The variables in the order added, the same name perhaps more than once. -/
  vars : List Variable
  /-- For how many variables there is room. -/
  variableSlots : Nat
  output : Bytes
  /-- For how many bytes of output there is room. -/
  outputRoom : Nat
  headers : List Char
  status : Nat
  deriving DecidableEq, Repr

namespace Context

/-- The room for output of a new context. -/
def initialRoom : Nat := 8192

/-- The room for variables of a new context, and the least by which it grows. -/
def initialSlots : Nat := 64

/-- The least room for output that is reserved. -/
def leastRoom : Nat := 8

/-- A new context. -/
def new : Context :=
  { thread := 0
    documentRoot := none
    scriptPath := none
    body := .none
    vars := []
    variableSlots := initialSlots
    output := []
    outputRoom := initialRoom
    headers := []
    status := defaultStatus }

/-- Adds a variable. A full room is doubled first, from nothing to its initial size. -/
def addVariable (c : Context) (name value : String) : Context :=
  { c with
    vars := c.vars ++ [(name, value)]
    variableSlots :=
      if c.vars.length = c.variableSlots then
        c.variableSlots + max c.variableSlots initialSlots
      else c.variableSlots }

/-- Puts a body in place, of which nothing was read. -/
def setBody (c : Context) (content : Bytes) : Context :=
  { c with body := .ofBytes content }

/-- Reads up to `size` bytes of the body. -/
def readBody (c : Context) (size : Nat) : Bytes × Context :=
  let (data, body) := c.body.read size
  (data, { c with body })

/-- Gives everything back but the thread index. -/
def destroy (c : Context) : Context :=
  { new with thread := c.thread, variableSlots := 0, outputRoom := 0 }

/-- Drops what an earlier execution produced; the room stays. -/
def resetOutput (c : Context) : Context :=
  { c with output := [], headers := [], status := defaultStatus }

/-- Adds output. Room that does not suffice is at least doubled. -/
def appendOutput (c : Context) (data : Bytes) : Context :=
  let needed := c.output.length + data.length
  { c with
    output := c.output ++ data
    outputRoom :=
      if needed ≤ c.outputRoom then c.outputRoom
      else max leastRoom (max (2 * c.outputRoom) needed) }

/-! ## 3. Status and headers -/

/-- Sets the status, if it is a status of HTTP. -/
def setStatus (c : Context) (status : Nat) : Context :=
  if 100 ≤ status ∧ status < 600 then { c with status } else c

/-- Adds a header line without the line ends at its end. An empty line adds nothing, and a
line that begins with `HTTP/` sets the status. -/
def addHeader (c : Context) (line : String) : Context :=
  let line := Text.dropEndWhile (fun ch => ch == '\r' || ch == '\n') line.toList
  if line.isEmpty then c
  else if HeaderBlock.isStatusLine line then
    match HeaderBlock.statusOf? line with
    | some status => c.setStatus status
    | none => c
  else { c with headers := HeaderBlock.addLine c.headers line }

/-- Removes the headers of a name. -/
def removeHeader (c : Context) (name : String) : Context :=
  { c with headers := HeaderBlock.removeNamed name.toList c.headers }

/-- Adds a header line after the headers of the same name were removed. -/
def replaceHeader (c : Context) (line : String) : Context :=
  match Text.splitOnce ':' line.toList with
  | some (name, _) =>
    if HeaderBlock.isStatusLine line.toList then c.addHeader line
    else (c.removeHeader (String.ofList name)).addHeader line
  | none => c.addHeader line

/-- Removes all headers. -/
def clearHeaders (c : Context) : Context :=
  { c with headers := [] }

/-! ## 4. What comes of it -/

/-- The header block as bytes. -/
def headerBytes (c : Context) : Bytes :=
  Text.Utf8.encode c.headers

/-- The response with what was produced; no status and an empty header block become the default
ones. -/
def response (c : Context) : Response :=
  { status := if c.status = 0 then defaultStatus else c.status
    headers :=
      if c.headers.isEmpty then Text.Utf8.encode HeaderBlock.default else c.headerBytes
    body := c.output }

/-- An optional text in a description. -/
def describeText : Option String → String
  | some s => "Some(" ++ Text.quoted s ++ ")"
  | none => "None"

/-- A description for diagnostics, without the contents. -/
def describe (c : Context) : String :=
  Text.joinTexts ", "
    [ "RequestContext \x7b thread_index: " ++ toString c.thread.toInt,
      "document_root: " ++ describeText c.documentRoot,
      "script_path: " ++ describeText c.scriptPath,
      "post_len: " ++ toString c.body.content.length,
      "server_vars: " ++ toString c.vars.length,
      "output_len: " ++ toString c.output.length,
      "http_status: " ++ toString c.status ++ " \x7d" ]

end Context

end ScriptGateway.Script
