import ScriptGateway.Config.Environment
import ScriptGateway.Net.Address
/-!
# Configuration of the HTTP server
-/

namespace ScriptGateway.Config

/-- Where to listen, what to serve and how long to drain. -/
structure Server where
  listen : Net.SocketAddress
  documentRoot : String
  /-- The script for every request; none means to detect it. -/
  entryPoint : Option String
  drainTimeout : Duration
  /-- The `Cache-Control` value of static files. -/
  staticCacheControl : Option String
  deriving DecidableEq, Repr

namespace Server

/-- The drain timeout if none is set, or if it is switched off. -/
def defaultDrainTimeout : Duration :=
  Duration.ofSeconds 30

/-- The configuration without any variable. -/
def default : Server :=
  { listen := { ip := .v4 0 0 0 0, port := 8080, scope := 0 }
    documentRoot := "/var/www/html"
    entryPoint := none
    drainTimeout := defaultDrainTimeout
    staticCacheControl := none }

/-- Reads the listening address, with white space around it allowed. -/
def readListen (env : Environment) : Except Error Net.SocketAddress :=
  let v := env.getD "LISTEN_ADDR" "0.0.0.0:8080"
  match Net.SocketAddress.read? (Text.trim v) with
  | some address => .ok address
  | none => .error (.unreadable "LISTEN_ADDR" v .address)

/-- Reads the server's part of the configuration. -/
def ofEnvironment (env : Environment) : Except Error Server := do
  let listen ← readListen env
  let drain ← env.span "DRAIN_TIMEOUT" "30s"
  return {
    listen
    documentRoot := env.getD "DOCUMENT_ROOT" "/var/www/html"
    entryPoint := env.chosen? "ENTRY_POINT"
    drainTimeout := drain.getD defaultDrainTimeout
    staticCacheControl := env.nonempty? "STATIC_CACHE_CONTROL" }

end Server

end ScriptGateway.Config
