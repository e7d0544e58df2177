import ScriptGateway.Decimal.Natural
import ScriptGateway.Text.Blank
import ScriptGateway.Text.Lowercase
import ScriptGateway.Time.Duration
/-!
# Time spans in the configuration

A time span is a number of seconds, or a number with a unit: `s`, `m`, `h`, `d` or `w`. The
words `off` and `0`, and an empty text, switch the limit off. Case and white space around
the text do not matter. A span beyond 64 bits of seconds is cut to the largest.
-/

namespace ScriptGateway.Config

/-- Why a text is no time span. -/
inductive TimeSpanError where
  /-- No unit at the end, and no number of seconds either. -/
  | notADuration (text : String)
  /-- What stands before the unit is no number. -/
  | notANumber (text : String)
  deriving DecidableEq, Repr

/-- The wording of a time span error. -/
def TimeSpanError.message : TimeSpanError → String
  | .notADuration text => "invalid duration: " ++ text
  | .notANumber text => "invalid number: " ++ text

/-- The seconds in one unit. -/
def unitSeconds? (c : Char) : Option Nat :=
  if c = 's' then some 1
  else if c = 'm' then some 60
  else if c = 'h' then some 3600
  else if c = 'd' then some 86400
  else if c = 'w' then some 604800
  else none

/-- Reads a span from a text that is trimmed and in lower case. -/
def readNormalTimeSpan (s : List Char) : Except TimeSpanError (Option Duration) :=
  if s = ['o', 'f', 'f'] || s = ['0'] || s = [] then
    .ok none
  else
    match s.getLast?.bind unitSeconds? with
    | some unit =>
      match Decimal.readBelow? Decimal.wordLimit s.dropLast with
      | some n => .ok (some (Duration.ofSeconds (min (n * unit) (Decimal.wordLimit - 1))))
      | none => .error (.notANumber (String.ofList s.dropLast))
    | none =>
      match Decimal.readBelow? Decimal.wordLimit s with
      | some n => .ok (some (Duration.ofSeconds n))
      | none => .error (.notADuration (String.ofList s))

/-- Reads a time span; `none` switches the limit off. -/
def readTimeSpan (s : String) : Except TimeSpanError (Option Duration) :=
  readNormalTimeSpan (Text.lowerChars (Text.trimChars s.toList))

end ScriptGateway.Config
