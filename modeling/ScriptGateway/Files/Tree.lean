import ScriptGateway.Files.Path
import ScriptGateway.Text.Utf8
/-!
# File trees

What the gateway reads from disk: static assets, a project's marker files and description,
and shared libraries with interpreter extensions. A tree gives what stands at a list of
names; a directory exists if it is listed or if something lies below it. There are no
symbolic links.
-/

namespace ScriptGateway.Files

/-- What stands at a path: a directory, a plain file, or a file that is a shared library, which
may or may not provide the entry point of an extension. -/
inductive Entry where
  | directory
  | file (content : Bytes)
  | sharedLibrary (hasEntryPoint : Bool) (content : Bytes := [])
  deriving DecidableEq, Repr

/-- A list of names, outermost first. -/
abbrev Location := List String

/-- A file tree. -/
structure Tree where
  entries : List (Location × Entry)
  deriving Repr

namespace Tree

/-- A tree with nothing but an empty directory. -/
def ofDirectory (place : Location) : Tree :=
  { entries := [(place, .directory)] }

/-- The tree with something put where a path leads from a location. The directories on the
way come with it. -/
def put (t : Tree) (from_ : Location) (path : String) (e : Entry) : Tree :=
  let place := (segments path.toList).foldl
    (fun place s => if s = parentSegment then place.dropLast else place ++ [String.ofList s]) from_
  { entries := t.entries ++ [(place, e)] }

/-- What stands at a location. -/
def entry? (t : Tree) (at_ : Location) : Option Entry :=
  match t.entries.find? fun (place, _) => place == at_ with
  | some (_, e) => some e
  | none =>
    if t.entries.any fun (place, _) => at_.isPrefixOf place then some .directory else none

/-- Whether anything stands at a location. -/
def holds (t : Tree) (at_ : Location) : Bool :=
  (t.entry? at_).isSome

/-- Whether a file, plain or library, stands at a location. -/
def isFile (t : Tree) (at_ : Location) : Bool :=
  match t.entry? at_ with
  | some (.file _) => true
  | some (.sharedLibrary _ _) => true
  | _ => false

/-- Whether a directory stands at a location. -/
def isDirectory (t : Tree) (at_ : Location) : Bool :=
  t.entry? at_ == some .directory

/-- The content of a file, plain or library. -/
def content? (t : Tree) (at_ : Location) : Option Bytes :=
  match t.entry? at_ with
  | some (.file content) => some content
  | some (.sharedLibrary _ content) => some content
  | _ => none

/-- Follows segments from a location; only directories can be entered or left. -/
def follow (t : Tree) (from_ : Location) : List (List Char) → Option Location
  | [] => some from_
  | segment :: rest =>
    if !t.isDirectory from_ then none
    else if segment = parentSegment then follow t from_.dropLast rest
    else follow t (from_ ++ [String.ofList segment]) rest

/-- Where a path leads from a directory. One that ends in a slash or a point leads to a
directory only. -/
def locate (t : Tree) (from_ : Location) (path : String) : Option Location :=
  let pieces := path.toList.splitOn '/'
  match t.follow from_ (segments path.toList) with
  | none => none
  | some place =>
    let mustBeDirectory := pieces.getLast? = some [] || pieces.getLast? = some ['.']
    if mustBeDirectory && !t.isDirectory place then none else some place

/-- Whether a path leads to something. -/
def hasPath (t : Tree) (from_ : Location) (path : String) : Bool :=
  match t.locate from_ path with
  | some place => t.holds place
  | none => false

/-- The content of the file that a path leads to. -/
def readPath? (t : Tree) (from_ : Location) (path : String) : Option Bytes :=
  (t.locate from_ path).bind t.content?

end Tree

end ScriptGateway.Files
