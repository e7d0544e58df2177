import ScriptGateway.Text.Split
/-!
# Paths

A path is a text whose segments are separated by slashes. Empty segments and single points
name nothing and are left out; a double point names the parent.

* `segments` lists the segments that name something.
* `extension?` is what follows the last point of the last segment.
* `join` puts a relative path under a directory.
-/

namespace ScriptGateway.Files

/-- The segments of a path that name something: neither empty nor a single point. -/
def segments (path : List Char) : List (List Char) :=
  (path.splitOn '/').filter fun s => s != [] && s != ['.']

/-- The parent segment. -/
def parentSegment : List Char := ['.', '.']

/-- The name a path ends in; none if it ends in its root or in a parent segment. -/
def fileName? (path : List Char) : Option (List Char) :=
  match (segments path).getLast? with
  | some name => if name = parentSegment then none else some name
  | none => none

/-- What follows the last point of a name. A name whose only point leads it has no extension. -/
def nameExtension? (name : List Char) : Option (List Char) :=
  let after := (name.reverse.takeWhile (· != '.')).reverse
  let stemLength := name.length - after.length - 1
  if after.length < name.length && 0 < stemLength then some after else none

/-- The extension of the name that a path ends in. -/
def extension? (path : List Char) : Option (List Char) :=
  (fileName? path).bind nameExtension?

/-- A path under a directory. An absolute path stands for itself. -/
def join (directory path : String) : String :=
  let d := directory.toList
  let p := path.toList
  String.ofList <|
    if p.head? = some '/' then p
    else if d = [] || d.getLast? = some '/' then d ++ p
    else d ++ '/' :: p

end ScriptGateway.Files
