import ScriptGateway.Files.Tree
import ScriptGateway.Project.Composer
import ScriptGateway.Project.Version
/-!
# What a project's files tell

The interpreter version, the script that answers every request, and the framework. A version
or a script given explicitly wins, unless it is empty or the word `auto`.
-/

namespace ScriptGateway.Project

/-- A value given explicitly: trimmed, and neither empty nor `auto` in any case. -/
def explicit? (given : String) : Option String :=
  let word := Text.trimChars given.toList
  if word = [] || Text.eqIgnoringCase word ['a', 'u', 't', 'o'] then none
  else some (String.ofList word)

/-- A project: a file tree and the directory that is its root. -/
structure Root where
  tree : Files.Tree
  directory : Files.Location

namespace Root

/-- Whether a path leads to something in the project. -/
def has (r : Root) (path : String) : Bool :=
  r.tree.hasPath r.directory path

/-- The version that the project description asks for. -/
def describedVersion? (r : Root) : Option Version := do
  let content ← r.tree.readPath? r.directory "composer.json"
  let constraint ← Composer.constraint? content
  Constraint.resolve constraint

/-- The version to start the engine with. An explicit one is taken as it is. -/
def version (r : Root) (given : String) : String :=
  match explicit? given with
  | some version => version
  | none => (r.describedVersion?.getD Version.default).toText

/-- Scripts that may answer every request, in order of preference. -/
def entryPointCandidates : List String :=
  ["public/index.php", "index.php", "app.php", "frontend.php", "main.php"]

/-- The script if no candidate is there. -/
def defaultEntryPoint : String := "index.php"

/-- The script that answers every request, as a path from the root. -/
def entryPoint (r : Root) (given : String) : String :=
  match explicit? given with
  | some script => script
  | none => (entryPointCandidates.find? r.has).getD defaultEntryPoint

end Root

/-- Project layouts that are recognised. -/
inductive Framework where
  | laravel
  | symfony
  | wordPress
  | drupal
  | generic
  deriving DecidableEq, Repr

/-- The word for a framework. -/
def Framework.name : Framework → String
  | .laravel => "laravel"
  | .symfony => "symfony"
  | .wordPress => "wordpress"
  | .drupal => "drupal"
  | .generic => "generic"

/-- The file by which each framework is recognised, in order of preference. -/
def frameworkMarkers : List (String × Framework) :=
  [("artisan", .laravel), ("bin/console", .symfony), ("wp-config.php", .wordPress),
    ("core/lib/Drupal.php", .drupal)]

/-- The framework of a project. -/
def Root.framework (r : Root) : Framework :=
  match frameworkMarkers.find? fun (marker, _) => r.has marker with
  | some (_, framework) => framework
  | none => .generic

end ScriptGateway.Project
