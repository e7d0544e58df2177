import ScriptGateway.Decimal.Natural
import ScriptGateway.Text.Split
/-!
# Durations

A span of time in whole seconds and nanoseconds below one second. `toText` writes it in the
largest unit of which it holds one, with as many decimals as needed.
-/

namespace ScriptGateway

/-- A span of time. -/
structure Duration where
  seconds : Nat
  nanos : Nat
  deriving DecidableEq, Repr, Inhabited

namespace Duration

/-- A number of whole seconds. -/
def ofSeconds (seconds : Nat) : Duration :=
  { seconds, nanos := 0 }

/-- A number of seconds and any number of nanoseconds; whole seconds among these are carried. -/
def ofParts (seconds nanos : Nat) : Duration :=
  { seconds := seconds + nanos / 1000000000, nanos := nanos % 1000000000 }

/-- A number of milliseconds. -/
def ofMillis (millis : Nat) : Duration :=
  { seconds := millis / 1000, nanos := millis % 1000 * 1000000 }

/-- Whole milliseconds, rounded down. -/
def toMillis (d : Duration) : Nat :=
  d.seconds * 1000 + d.nanos / 1000000

/-- The seconds as a floating-point number. -/
def toFloat (d : Duration) : Float :=
  d.seconds.toUInt64.toFloat + d.nanos.toUInt64.toFloat / 1000000000.0

/-- A whole part and the decimals after it, without trailing zeros. -/
def withDecimals (whole places decimals : Nat) : List Char :=
  let digits := Text.dropEndWhile (· == '0') (Decimal.padded places decimals)
  Decimal.ofNat whole ++ (if digits.isEmpty then [] else '.' :: digits)

/-- The text of a duration in seconds, or in a smaller unit if it is below one second:
`120s`, `1.5ms`, `20µs`, `0ns`. -/
def toText (d : Duration) : String :=
  String.ofList <|
    if 0 < d.seconds then withDecimals d.seconds 9 d.nanos ++ ['s']
    else if 1000000 ≤ d.nanos then
      withDecimals (d.nanos / 1000000) 6 (d.nanos % 1000000) ++ ['m', 's']
    else if 1000 ≤ d.nanos then withDecimals (d.nanos / 1000) 3 (d.nanos % 1000) ++ ['µ', 's']
    else withDecimals d.nanos 0 0 ++ ['n', 's']

end Duration

end ScriptGateway
