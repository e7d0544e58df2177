import ScriptGateway.Decimal.Natural
/-!
# Numerals

A numeral is a number as JSON writes it: a sign, digits before a point, digits after it and a
power of ten.

* `Numeral.read?` takes one off the front of a text.
* `Numeral.nearest` is the double nearest to it.
* `Numeral.scaled?` is the double that two roundings give. The leading digits that fit a word
  are made a double, and that one is scaled by a power of ten. It is quick and may miss the
  nearest double by its last bits.
-/

namespace ScriptGateway.Decimal

/-! ## 1. Numerals -/

/-- A number as it is written. Without a point there is no fraction, and without a letter there
is no exponent. -/
structure Numeral where
  negative : Bool
  whole : List Char
  fraction : Option (List Char)
  exponent : Option Int
  deriving DecidableEq, Repr

/-- The numeral of a whole number. -/
def Numeral.ofInt (n : Int) : Numeral :=
  { negative := n < 0, whole := ofNat n.natAbs, fraction := none, exponent := none }

/-- Whether only digits follow the sign. -/
def Numeral.isWhole (n : Numeral) : Bool :=
  n.fraction.isNone && n.exponent.isNone

/-- All digits, the point left out. -/
def Numeral.digits (n : Numeral) : List Char :=
  n.whole ++ n.fraction.getD []

/-- The power of ten that the last digit counts. -/
def Numeral.unit (n : Numeral) : Int :=
  n.exponent.getD 0 - Int.ofNat (n.fraction.getD []).length

/-- The number written by a run of digits. -/
def digitsValue (ds : List Char) : Nat :=
  ds.foldl (fun value c => value * 10 + (digit? c).getD 0) 0

/-! ## 2. Reading -/

/-- The leading digits of a text and what follows them. -/
def spanDigits (s : List Char) : List Char × List Char :=
  s.span fun c => (digit? c).isSome

/-- Takes off the digits before the point: at least one, and a zero only alone. -/
def readWhole (s : List Char) : Option (List Char × List Char) :=
  let (whole, rest) := spanDigits s
  if whole.isEmpty || (whole.length > 1 && whole.head? == some '0') then none
  else some (whole, rest)

/-- Takes off a point and the digits after it, if there is one; at least one digit follows it. -/
def readFraction (s : List Char) : Option (Option (List Char) × List Char) :=
  match s with
  | '.' :: rest =>
    let (fraction, rest) := spanDigits rest
    if fraction.isEmpty then none else some (some fraction, rest)
  | rest => some (none, rest)

/-- Takes off an exponent after its letter: an optional sign and at least one digit. -/
def readPower (s : List Char) : Option (Option Int × List Char) :=
  let (negative, s) := match s with
    | '-' :: rest => (true, rest)
    | '+' :: rest => (false, rest)
    | rest => (false, rest)
  let (digits, rest) := spanDigits s
  let power := Int.ofNat (digitsValue digits)
  if digits.isEmpty then none else some (some (if negative then -power else power), rest)

/-- Takes off an exponent, if there is one. -/
def readExponent (s : List Char) : Option (Option Int × List Char) :=
  match s with
  | 'e' :: rest => readPower rest
  | 'E' :: rest => readPower rest
  | rest => some (none, rest)

/-- Takes a numeral off the front of a text. -/
def Numeral.read? (s : List Char) : Option (Numeral × List Char) := do
  let (negative, rest) := match s with
    | '-' :: rest => (true, rest)
    | rest => (false, rest)
  let (whole, rest) ← readWhole rest
  let (fraction, rest) ← readFraction rest
  let (exponent, rest) ← readExponent rest
  return ({ negative, whole, fraction, exponent }, rest)

/-! ## 3. Doubles -/

/-- A double with the sign of a numeral. -/
def Numeral.signed (n : Numeral) (x : Float) : Float :=
  if n.negative then -x else x

/-- The double nearest to `digits * 10 ^ power`. -/
def ofScientific (digits : Nat) (power : Int) : Float :=
  match power with
  | .ofNat e => Float.ofScientific digits false e
  | .negSucc e => Float.ofScientific digits true (e + 1)

/-- The double nearest to a numeral. Beyond ten to the 310th all are infinite, and below ten to
the -330th all are zero. -/
def Numeral.nearest (n : Numeral) : Float :=
  let value := digitsValue n.digits
  let lead := Int.ofNat n.digits.length + n.unit
  n.signed <|
    if value = 0 || lead < -330 then 0.0
    else if Int.ofNat (ofNat value).length + n.unit > 310 then 1.0 / 0.0
    else ofScientific value n.unit

/-- Adds digits to a number as long as it stays a word; the second part is what was not added. -/
def gather (value : Nat) : List Char → Nat × List Char
  | [] => (value, [])
  | c :: rest =>
    let next := value * 10 + (digit? c).getD 0
    if next < wordLimit then gather next rest else (value, c :: rest)

/-- The greatest power of ten among the doubles. -/
def greatestPower : Nat := 308

/-- A double divided by a power of ten, one rounding for every power that is a double itself. -/
def divideByPower (x : Float) (power : Nat) : Float :=
  if power ≤ greatestPower then x / ofScientific 1 power
  else if x == 0.0 then x
  else divideByPower (x / ofScientific 1 greatestPower) (power - greatestPower)
termination_by power
decreasing_by simp [greatestPower] at *; omega

/-- A double multiplied by a power of ten with one rounding, unless the result is infinite. -/
def multiplyByPower? (x : Float) (power : Nat) : Option Float :=
  if power ≤ greatestPower then
    let y := x * ofScientific 1 power
    if y.isInf then none else some y
  else if x == 0.0 then some x
  else none

/-- The double that converting the leading digits and scaling them gives, unless it is
infinite. -/
def Numeral.scaled? (n : Numeral) : Option Float :=
  let (kept, overrun) := gather 0 n.whole
  let fraction := n.fraction.getD []
  let (kept, left) := gather kept fraction
  let power := n.exponent.getD 0 + Int.ofNat overrun.length
    - (Int.ofNat fraction.length - Int.ofNat left.length)
  let x := (UInt64.ofNat kept).toFloat
  n.signed <$> match power with
    | .ofNat e => multiplyByPower? x e
    | .negSucc e => some (divideByPower x (e + 1))

end ScriptGateway.Decimal
