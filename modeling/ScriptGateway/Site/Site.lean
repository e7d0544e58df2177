import ScriptGateway.Files.Path
/-!
# Sites

A site is a document root and the script in it that answers every request which no file
answers. The script is given relative to the root; leading slashes do not make it absolute.
-/

namespace ScriptGateway

/-- A document root and the script of the site. -/
structure Site where
  documentRoot : String
  /-- The script, relative to the root and without leading slashes. -/
  entryPoint : String
  deriving DecidableEq, Repr

namespace Site

/-- The site with a script. -/
def new (documentRoot entryPoint : String) : Site :=
  { documentRoot, entryPoint := String.ofList (entryPoint.toList.dropWhile (· == '/')) }

/-- The path of the script on the site. -/
def scriptName (s : Site) : String :=
  "/" ++ s.entryPoint

/-- The file of the script. -/
def scriptFile (s : Site) : String :=
  Files.join s.documentRoot s.entryPoint

end Site

end ScriptGateway
