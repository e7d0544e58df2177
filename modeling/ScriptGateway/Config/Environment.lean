import ScriptGateway.Config.Error
import ScriptGateway.Text.Utf8
/-!
# Variables of the environment

The configuration is read from named variables. A variable whose bytes are no text counts as
unset. The readers differ in what they make of an empty value:

* `getD` keeps it, the default stands in for an unset variable only;
* `nonempty?` and `list` treat it as unset, `chosen?` also treats the word `auto` so;
* `count` reads a number and takes its default for an empty value;
* `span` reads a time span, for which an empty value means no limit.
-/

namespace ScriptGateway.Config

/-- The value of each variable that is set to a text. -/
abbrev Environment := String → Option String

namespace Environment

/-- The environment of variables that hold bytes. -/
def ofBytes (values : String → Option Bytes) : Environment :=
  fun key => (values key).bind Bytes.toText?

/-- The value, or a default for an unset variable. -/
def getD (env : Environment) (key default : String) : String :=
  (env key).getD default

/-- The value if it is not empty. -/
def nonempty? (env : Environment) (key : String) : Option String :=
  (env key).filter (· ≠ "")

/-- The value if it is neither empty nor the word `auto` in any case. -/
def chosen? (env : Environment) (key : String) : Option String :=
  (env.nonempty? key).filter fun v => !Text.sameIgnoringCase (Text.trim v) "auto"

/-- The items of a list with commas, trimmed, without the empty ones. -/
def splitList (s : String) : List String :=
  (((s.toList.splitOn ',').map Text.trimChars).filter (· ≠ [])).map String.ofList

/-- The items of the value, none for an unset variable. -/
def list (env : Environment) (key : String) : List String :=
  ((env.nonempty? key).map splitList).getD []

/-- The value as a number of 64 bits, or a default for a variable unset or empty. -/
def count (env : Environment) (key : String) (default : Nat) : Except Error Nat :=
  match env.nonempty? key with
  | none => .ok default
  | some v =>
    match Decimal.readBelow Decimal.wordLimit (Text.trimChars v.toList) with
    | .ok n => .ok n
    | .error e => .error (.unreadable key v (.number e))

/-- The value, or a default, as a time span. -/
def span (env : Environment) (key default : String) : Except Error (Option Duration) :=
  let v := env.getD key default
  match readTimeSpan v with
  | .ok d => .ok d
  | .error e => .error (.unreadable key v (.timeSpan e))

end Environment

end ScriptGateway.Config
