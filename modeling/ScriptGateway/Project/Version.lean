import ScriptGateway.Decimal.DigitTable
import ScriptGateway.Decimal.Natural
import ScriptGateway.Text.Blank
/-!
# Interpreter versions

The engine starts with one of six versions. A project asks for one by a constraint such as
`^8.1` or `>=7.4 <9`; only the minimum at its front is considered. The default version wins
if it is not below the minimum, otherwise the lowest version that is not.

* `Constraint.minimum?` reads the minimum of a constraint.
* `Version.atLeast` chooses the version for a minimum.
-/

namespace ScriptGateway.Project

/-- A version by its two numbers. -/
structure Version where
  major : Nat
  minor : Nat
  deriving DecidableEq, Repr

namespace Version

/-- The text of a version. -/
def toText (v : Version) : String :=
  toString v.major ++ "." ++ toString v.minor

/-- Whether `v` is not before `w`. -/
def notBefore (v w : Version) : Bool :=
  w.major < v.major || (w.major == v.major && w.minor ≤ v.minor)

/-- The versions the engine starts with, oldest first. -/
def supported : List Version :=
  [⟨7, 4⟩, ⟨8, 0⟩, ⟨8, 1⟩, ⟨8, 2⟩, ⟨8, 3⟩, ⟨8, 4⟩]

/-- The version if nothing else decides. -/
def default : Version := ⟨8, 3⟩

/-- The texts the engine accepts as a version. -/
def supportedTexts : List String :=
  supported.map toText

/-- Whether the engine accepts a text as a version. -/
def isSupported (s : String) : Bool :=
  supportedTexts.contains s

/-- The version for a minimum: the default if it reaches the minimum, otherwise the lowest
that does, and the default again if none does. -/
def atLeast (minimum : Version) : Version :=
  if default.notBefore minimum then default
  else (supported.find? (·.notBefore minimum)).getD default

end Version

namespace Constraint

/-- The text before the first double bar. -/
def firstAlternative : List Char → List Char
  | '|' :: '|' :: _ => []
  | c :: rest => c :: firstAlternative rest
  | [] => []

/-- The text after a comparison sign, if it begins with one. -/
def dropOperator : List Char → List Char
  | '>' :: '=' :: rest => rest
  | '>' :: rest => rest
  | '^' :: rest => rest
  | '~' :: rest => rest
  | rest => rest

/-- The value of a run of digits; a digit outside ASCII and a value of more than 32 bits give
none. -/
def number? (digits : List Char) : Option Nat :=
  Decimal.readBelow? Decimal.shortWordLimit digits

/-- The minimum that a constraint asks for: after a comparison sign and white space, which may
both be missing, two numbers with a point between them. -/
def minimum? (constraint : String) : Option Version :=
  let s :=
    (dropOperator (Text.trimChars (firstAlternative constraint.toList))).dropWhile Text.isBlank
  let (major, rest) := s.span Decimal.isAnyDigit
  match rest with
  | '.' :: rest =>
    let minor := rest.takeWhile Decimal.isAnyDigit
    match number? major, number? minor with
    | some major, some minor => some ⟨major, minor⟩
    | _, _ => none
  | _ => none

/-- The version a constraint resolves to. -/
def resolve (constraint : String) : Option Version :=
  (minimum? constraint).map Version.atLeast

end Constraint

end ScriptGateway.Project
