import ScriptGateway.Files.Tree
import ScriptGateway.Log.Event
import ScriptGateway.Text.Quoted
/-!
# Extensions of the interpreter

An extension `name` is the shared library `name.so` in the extension directory, and must
provide the entry point of an extension. Required extensions must all load; optional ones
that do not are reported and passed over.

* `Extensions.load?` loads one extension, `Extensions.loadAll` all that are configured.
* `Extensions.loaded` is kept sorted, each name once.
-/

namespace ScriptGateway.Engine

/-- Why an extension could not be loaded. -/
inductive ExtensionError where
  | notFound (name path : String)
  | invalidName (name : String)
  | unopened (name detail : String)
  | noEntryPoint (name : String)
  deriving DecidableEq, Repr

namespace ExtensionError

/-- The extension at fault. -/
def name : ExtensionError → String
  | notFound name _ => name
  | invalidName name => name
  | unopened name _ => name
  | noEntryPoint name => name

/-- The wording of an extension error. -/
def message : ExtensionError → String
  | notFound name path => "required extension " ++ name ++ ": not found at " ++ path
  | invalidName name => "invalid extension name: " ++ Text.quoted name
  | unopened name detail => "failed to load extension " ++ name ++ ": " ++ detail
  | noEntryPoint name => "extension " ++ name ++ " has no get_module function"

end ExtensionError

/-- What is said of a file that is not a shared library. -/
def notALibrary : String := "not a shared library"

/-- The directory for extensions of a version, if no other is configured. -/
def defaultExtensionDirectory (version : String) : String :=
  "/usr/local/lib/php/" ++ version ++ "/extensions"

/-- The extensions that are configured, and those that are loaded. -/
structure Extensions where
  version : String
  directory : String
  required : List String
  optional : List String
  loaded : List String
  deriving DecidableEq, Repr

/-- Puts a name into a sorted list, unless it is there. -/
def insertName (name : String) : List String → List String
  | [] => [name]
  | other :: rest =>
    if name < other then name :: other :: rest
    else if name = other then other :: rest
    else other :: insertName name rest

namespace Extensions

/-- Extensions in the usual directory, none of them loaded. -/
def configure (version : String) (required optional : List String) : Extensions :=
  { version, directory := defaultExtensionDirectory version, required, optional, loaded := [] }

/-- Whether no extension is configured. -/
def isEmpty (e : Extensions) : Bool :=
  e.required.isEmpty && e.optional.isEmpty

/-- Characters that no name of an extension holds. -/
def isForbidden (c : Char) : Bool :=
  c == '/' || c == '\\' || c == '\x00'

/-- Whether a text may name an extension. -/
def isName (name : String) : Bool :=
  name != "" && !name.toList.any isForbidden

/-- The file of an extension. -/
def path (e : Extensions) (name : String) : String :=
  Files.join e.directory (name ++ ".so")

/-- Opens the file of an extension, which is not loaded yet. -/
def openFile (tree : Files.Tree) (e : Extensions) (name : String) : Except ExtensionError Unit :=
  match (tree.locate [] (e.path name)).bind tree.entry? with
  | some (.sharedLibrary true _) => .ok ()
  | some (.sharedLibrary false _) => .error (.noEntryPoint name)
  | some (.file _) => .error (.unopened name notALibrary)
  | _ => .error (.notFound name (e.path name))

/-- Loads one extension; nothing is opened for one that is loaded. -/
def load? (tree : Files.Tree) (e : Extensions) (name : String) :
    Except ExtensionError Extensions :=
  if !isName name then .error (.invalidName name)
  else if e.loaded.contains name then .ok e
  else
    match e.openFile tree name with
    | .ok () => .ok { e with loaded := insertName name e.loaded }
    | .error err => .error err

/-- Forgets all extensions that are loaded. -/
def unloadAll (e : Extensions) : Extensions :=
  { e with loaded := [] }

/-- Loads extensions up to the first that fails. -/
def loadRequired (tree : Files.Tree) (e : Extensions) :
    List String → Option ExtensionError × Extensions
  | [] => (none, e)
  | name :: rest =>
    match e.load? tree name with
    | .ok e => loadRequired tree e rest
    | .error err => (some err, e)

/-- Loads the extensions that can be loaded, and lists why the others cannot. -/
def loadOptional (tree : Files.Tree) (e : Extensions) :
    List String → List (String × ExtensionError) × Extensions
  | [] => ([], e)
  | name :: rest =>
    match e.load? tree name with
    | .ok e => loadOptional tree e rest
    | .error err =>
      let (failures, e) := loadOptional tree e rest
      ((name, err) :: failures, e)

/-- What came of loading all extensions. -/
structure Loading where
  extensions : Extensions
  failure : Option ExtensionError
  /-- The optional extensions that were passed over. -/
  passedOver : List (String × ExtensionError)

/-- Loads all extensions that are configured: the required ones first, then the optional. -/
def loadAll (tree : Files.Tree) (e : Extensions) : Loading :=
  match e.loadRequired tree e.required with
  | (some err, e) => { extensions := e, failure := some err, passedOver := [] }
  | (none, e) =>
    let (failures, e) := e.loadOptional tree e.optional
    { extensions := e, failure := none, passedOver := failures }

/-- The events that report a loading. -/
def Loading.events (l : Loading) : List Log.Event :=
  (l.passedOver.map fun (name, err) =>
    Log.gatewayEvent .warn "Optional extension not available"
      [("extension", .shown name), ("error", .shown err.message)])
  ++
  if l.failure.isSome || l.extensions.loaded.isEmpty then []
  else
    [Log.gatewayEvent .info "PHP extensions loaded"
      [("extensions", .shown (Text.quotedList l.extensions.loaded)),
        ("dir", .shown l.extensions.directory)]]

end Extensions

end ScriptGateway.Engine
