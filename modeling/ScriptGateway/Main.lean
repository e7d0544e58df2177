import ScriptGateway.Gateway
import ScriptGateway.Log.Entry
import ScriptGateway.Time.Timestamp
import Std.Time.DateTime.Timestamp
/-!
# The command

Starts a gateway as the environment configures it, writes what is logged to the standard
output, and stops the gateway again. A configuration that cannot be read is reported on the
standard error.
-/

namespace ScriptGateway.Command

/-- The variables of the environment that the configuration is read from. -/
def variableNames : List String :=
  [ "LISTEN_ADDR", "DOCUMENT_ROOT", "ENTRY_POINT", "DRAIN_TIMEOUT", "STATIC_CACHE_CONTROL",
    "ENGINE_MODE", "PHP_VERSION", "PHP_EXTENSION_DIR", "PHP_EXTENSIONS",
    "PHP_EXTENSIONS_OPTIONAL", "PHP_WORKERS", "QUEUE_CAPACITY", "REQUEST_TIMEOUT",
    "LOG_LEVEL", "RUST_LOG", "LOG_FORMAT", "SERVICE_NAME" ]

/-- The values of these variables. -/
def environment : IO Config.Environment := do
  let mut values := []
  for name in variableNames do
    if let some value ← IO.getEnv name then
      values := (name, value) :: values
  return fun name => values.lookup name

/-- All files below a directory that can be read, with their locations. -/
partial def filesBelow (path : String) (place : Files.Location) :
    IO (List (Files.Location × Files.Entry)) := do
  let mut found := [(place, Files.Entry.directory)]
  for entry in ← (← IO.FS.realPath path).readDir do
    let inner := path ++ "/" ++ entry.fileName
    let innerPlace := place ++ [entry.fileName]
    if ← entry.path.isDir then
      found := found ++ (← filesBelow inner innerPlace)
    else
      let content ← IO.FS.readBinFile inner
      found := found ++ [(innerPlace, .file content.toList)]
  return found

/-- The files below a directory; none if it cannot be read. -/
def treeBelow (path : String) : IO Files.Tree := do
  try
    return { entries := ← filesBelow path (Gateway.locationOf path) }
  catch _ =>
    return { entries := [] }

/-- Writes a log line with the present time. -/
def log (service : String) (e : Log.Event) : IO Unit := do
  let now ← Std.Time.Timestamp.now
  let nanos := now.toNanosecondsSinceUnixEpoch.val.toNat
  let time := timestamp (.ofParts 0 nanos)
  IO.print (Log.line service time e)

/-- Starts and stops a gateway. -/
def run : IO UInt32 := do
  match Config.Gateway.ofEnvironment (← environment) with
  | .error e =>
    IO.eprintln ("Configuration error: " ++ e.message)
    return 1
  | .ok config =>
    let (events, started) :=
      Gateway.start config (← treeBelow config.server.documentRoot) (.ok ())
    events.forM (log config.logging.service)
    match started with
    | .error e =>
      IO.eprintln ("Error: " ++ e.message)
      return 1
    | .ok gateway =>
      (gateway.stop 0 0).forM (log config.logging.service)
      return 0

end ScriptGateway.Command

/-- The gateway's command. -/
def main : IO UInt32 :=
  ScriptGateway.Command.run
