import ScriptGateway.Json.Printer
import ScriptGateway.Log.Event
import ScriptGateway.Text.Split
/-!
# Log entries

One event becomes one line of JSON:
`{"ctx":{"service":…},"data":{…},"level":…,"msg":…,"ts":…,"type":…}`. The message is the
field of that name; an access record has none and gets `METHOD PATH STATUS` instead. All
other fields are data, the last one recorded of a name counting.

* `Entry.ofEvent` collects the parts, `Entry.toJson` orders them, `Entry.line` writes them.
-/

namespace ScriptGateway.Log

/-- What kind of line an entry is. -/
inductive Kind where
  | access
  | interpreter
  | error
  | app
  deriving DecidableEq, Repr

/-- The word for a kind. -/
def Kind.name : Kind → String
  | .access => "access"
  | .interpreter => "php"
  | .error => "error"
  | .app => "app"

/-- The word for a level; traces count as debugging. -/
def Level.name : Level → String
  | .trace => "debug"
  | .debug => "debug"
  | .info => "info"
  | .warn => "warn"
  | .error => "error"

/-- The target decides the kind; an event of another target is an error or not. -/
def kindOf (target : String) (level : Level) : Kind :=
  if target = accessTarget then .access
  else if target = interpreterTarget then .interpreter
  else if level = .error then .error
  else .app

/-- A recorded value as data. -/
def FieldValue.toJson : FieldValue → Json.Value
  | .text s => .text s
  | .shown s => .text s
  | .int n => .int n
  | .float x => if x.isFinite then .float x else .null
  | .bool b => .bool b

/-- Puts a value under a name into fields sorted by name, in place of an earlier one. -/
def putField (name : String) (v : Json.Value) :
    List (String × Json.Value) → List (String × Json.Value)
  | [] => [(name, v)]
  | (other, w) :: rest =>
    if name < other then (name, v) :: (other, w) :: rest
    else if name = other then (name, v) :: rest
    else (other, w) :: putField name v rest

/-- The message that a value recorded under `message` gives: a text as it is, a shown value
without the quotation marks at its ends, and none for a number or a truth value. -/
def FieldValue.message? : FieldValue → Option String
  | .text s => some s
  | .shown s => some (String.ofList (Text.trimBoth (· == '"') s.toList))
  | _ => none

/-- What the values of an event come to: the message, if any, and the data. -/
structure Collected where
  message : Option String
  data : List (String × Json.Value)

/-- Adds one recorded value. -/
def Collected.record (c : Collected) (name : String) (v : FieldValue) : Collected :=
  match if name = "message" then v.message? else none with
  | some message => { c with message := some message }
  | none => { c with data := putField name v.toJson c.data }

/-- All values of an event, in order. -/
def collect (fields : List (String × FieldValue)) : Collected :=
  fields.foldl (fun c (name, v) => c.record name v) { message := none, data := [] }

/-- A log entry without its time. -/
structure Entry where
  service : String
  level : Level
  kind : Kind
  message : String
  data : List (String × Json.Value)

/-- The first line of an access record: method, path and status, with `?`, `?` and 0 for what
is missing or of another type. -/
def accessMessage (data : List (String × Json.Value)) : String :=
  let value? (name : String) := Json.Value.field? name (.object data)
  let method := ((value? "method").bind Json.Value.asText?).getD "?"
  let path := ((value? "path").bind Json.Value.asText?).getD "?"
  let status := ((value? "status").bind Json.Value.asNat?).getD 0
  method ++ " " ++ path ++ " " ++ toString status

/-- The entry of an event. -/
def Entry.ofEvent (service : String) (e : Event) : Entry :=
  let kind := kindOf e.target e.level
  let collected := collect e.fields
  { service
    level := e.level
    kind
    message :=
      if kind = .access then accessMessage collected.data else collected.message.getD ""
    data := collected.data }

/-- The JSON object of an entry at a time, its names in alphabetical order. -/
def Entry.toJson (e : Entry) (time : String) : Json.Value :=
  .object [
    ("ctx", .object [("service", .text e.service)]),
    ("data", .object e.data),
    ("level", .text e.level.name),
    ("msg", .text e.message),
    ("ts", .text time),
    ("type", .text e.kind.name)]

/-- The line of an entry at a time, with its line end. -/
def Entry.line (e : Entry) (time : String) : List Char :=
  Json.write (e.toJson time) ++ ['\n']

/-- The line of an event at a time, with its line end. -/
def line (service time : String) (e : Event) : String :=
  String.ofList ((Entry.ofEvent service e).line time)

end ScriptGateway.Log
