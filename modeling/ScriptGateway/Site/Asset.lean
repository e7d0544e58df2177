import ScriptGateway.Files.Tree
import ScriptGateway.Http.Message
import ScriptGateway.Log.Event
import ScriptGateway.Text.Percent
import ScriptGateway.Text.CaseFold
import ScriptGateway.Text.Quoted
/-!
# Static assets

A file below the document root is sent as it is if its extension is one of a fixed list.

* `Asset.isStatic` judges a path by its extension alone.
* `Asset.resolve?` finds the file for the path of a request, never outside the root.
* `Asset.serve` is the response with the file.
-/

namespace ScriptGateway.Asset

/-- The extensions of files that are sent as they are. -/
def extensions : List String :=
  ["css", "js", "png", "jpg", "jpeg", "gif", "svg", "ico", "woff", "woff2", "ttf", "eot", "map",
    "webp", "avif", "mp4", "webm", "pdf", "txt", "xml", "json"]

/-- Whether an extension is one of them, in any case. -/
def isStaticExtension (e : List Char) : Bool :=
  extensions.any fun other => Text.eqIgnoringCase other.toList e

/-- Whether a path ends in such an extension. -/
def isStatic (path : List Char) : Bool :=
  match Files.extension? path with
  | some e => isStaticExtension e
  | none => false

/-- The names that a request's path leads along, if it may lead to an asset: decoded once,
without NUL and without parent segments. -/
def names? (path : String) : Option (List String) := do
  let decoded ← Text.Utf8.decode? (Text.percentDecode (Bytes.ofText path))
  if decoded.contains '\x00' || !isStatic decoded then none
  else
    let names := Files.segments decoded
    if names.contains Files.parentSegment then none else some (names.map String.ofList)

/-- The file for the path of a request, if there is one below the root. -/
def resolve? (tree : Files.Tree) (root : Files.Location) (path : String) :
    Option Files.Location := do
  let names ← names? path
  if tree.isFile (root ++ names) then some (root ++ names) else none

/-- The path of a file, as the root's path followed by names. -/
def pathOf (documentRoot : String) (names : List String) : String :=
  names.foldl Files.join documentRoot

/-- What is known by its extension, in lower case. -/
def contentTypes : List (String × String) :=
  [ ("css", "text/css"), ("js", "text/javascript"), ("png", "image/png"), ("jpg", "image/jpeg"),
    ("jpeg", "image/jpeg"), ("gif", "image/gif"), ("svg", "image/svg+xml"),
    ("ico", "image/x-icon"), ("woff", "application/font-woff"), ("woff2", "font/woff2"),
    ("ttf", "font/ttf"), ("eot", "application/vnd.ms-fontobject"), ("map", "text/plain"),
    ("txt", "text/plain"), ("webp", "image/webp"), ("avif", "image/avif"), ("mp4", "video/mp4"),
    ("webm", "video/webm"), ("pdf", "application/pdf"), ("xml", "text/xml"),
    ("json", "application/json") ]

/-- The content type of what is not known. -/
def unknownContent : String := "application/octet-stream"

/-- The content type of a file by the extension of its name, compared by its case folding. -/
def contentType (name : String) : String :=
  match Files.extension? name.toList with
  | some e => (contentTypes.lookup (String.ofList (Text.foldToAscii e))).getD unknownContent
  | none => unknownContent

/-- The response to a request for a file that cannot be read. -/
def notFound : Http.Response :=
  .ofText 404 "404 Not Found"

/-- The response with a file, and with a `Cache-Control` field if one is configured. -/
def serve (tree : Files.Tree) (cacheControl : Option String) (file : Files.Location) :
    Http.Response :=
  match tree.content? file with
  | some content =>
    let r := Http.Response.ofContent 200 (contentType (file.getLast?.getD "")) content
    match cacheControl with
    | some value => r.withField "cache-control" value
    | none => r
  | none => notFound

/-- The event that reports a value which cannot be sent. -/
def ignoredCacheControl (value : String) : Log.Event :=
  Log.gatewayEvent .warn
    ("Ignoring invalid static Cache-Control value: " ++ Text.quoted value) []

/-- The `Cache-Control` value that files are sent with: the configured one if it can be sent.
What is logged of another comes second. -/
def cacheControl : Option String → Option String × List Log.Event
  | none => (none, [])
  | some value =>
    if (Http.fieldValue? value).isSome then (some value, [])
    else (none, [ignoredCacheControl value])

end ScriptGateway.Asset
