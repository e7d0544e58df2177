import ScriptGateway.Decimal.Binary
import ScriptGateway.Decimal.Natural
/-!
# Floating-point numbers as text

`shortest` gives the fewest digits that read back as the same double, and of those the
nearest to it. It works on exact whole numbers: for one digit, two digits and so on it
looks at the two neighbours of the value on that decimal grid and takes the first grid on
which one of them lies in the interval of reals that round to the double. Seventeen digits
always suffice.

`plainOrScientific` writes such digits positionally between `1e-5` and `1e16`, and with an
exponent outside, as the log lines and the health page do. `fixed` writes a fixed number
of decimals.
-/

namespace ScriptGateway.Decimal

/-- The number `digits * 10 ^ exponent`. -/
structure Scaled where
  digits : Nat
  exponent : Int
  deriving DecidableEq, Repr

/-- The interval of reals that round to a positive double, over one denominator. -/
structure RoundingInterval where
  low : Nat
  value : Nat
  high : Nat
  denominator : Nat
  closed : Bool

/-- The interval of a positive double: half the gap to either neighbour. A significand that
is even wins the ties at both ends. -/
def Parts.interval (p : Parts) : RoundingInterval :=
  let scale := Nat.pow 2 p.exponent
  { low := (p.significand * 4 - (if p.nearBelow then 1 else 2)) * scale
    value := p.significand * 4 * scale
    high := (p.significand * 4 + 2) * scale
    denominator := Nat.pow 2 1076
    closed := p.significand % 2 == 0 }

/-- The exponent of the leading digit of `num / den`. -/
def leadingExponent (num den : Nat) : Int :=
  if den ≤ num then
    Int.ofNat ((ofNat (num / den)).length - 1)
  else
    -- The least `j` with `10 ^ j * num ≥ den`.
    -Int.ofNat (ofNat ((den + num - 1) / num - 1)).length

/-- The nearest point of the grid `10 ^ unit` that lies in the interval, if any. -/
def RoundingInterval.gridPoint? (i : RoundingInterval) (unit : Int) : Option Nat :=
  let up := Nat.pow 10 (-unit).toNat
  let den := i.denominator * Nat.pow 10 unit.toNat
  let low := i.low * up
  let value := i.value * up
  let high := i.high * up
  let fits (c : Nat) : Bool :=
    if i.closed then low ≤ c * den && c * den ≤ high else low < c * den && c * den < high
  let below := value / den
  let above := below + 1
  match fits below, fits above with
  | false, false => none
  | true, false => some below
  | false, true => some above
  | true, true =>
    let toBelow := value - below * den
    let toAbove := above * den - value
    if toBelow < toAbove then some below
    else if toAbove < toBelow then some above
    else if below % 2 = 0 then some below else some above

/-- Drops trailing zeros of the digits; the value stays. -/
def Scaled.normal : Nat → Scaled → Scaled
  | 0, s => s
  | fuel + 1, s =>
    if s.digits ≠ 0 ∧ s.digits % 10 = 0 then
      Scaled.normal fuel { digits := s.digits / 10, exponent := s.exponent + 1 }
    else s

/-- The fewest digits that read back as the positive double with these parts. -/
def shortest (p : Parts) : Scaled :=
  let i := p.interval
  let lead := leadingExponent i.value i.denominator
  let hit := (List.range 17).findSome? fun extra =>
    let unit := lead - Int.ofNat extra
    (i.gridPoint? unit).map fun c => Scaled.normal 20 { digits := c, exponent := unit }
  hit.getD { digits := 0, exponent := 0 }

/-- Positional notation for exponents of the leading digit from `-5` to `15`, always with a
point; scientific notation with a signed exponent otherwise. -/
def plainOrScientific (s : Scaled) : List Char :=
  let ds := ofNat s.digits
  let point := Int.ofNat ds.length + s.exponent
  if -5 < point ∧ point ≤ 16 then
    if point ≤ 0 then
      ['0', '.'] ++ List.replicate (-point).toNat '0' ++ ds
    else if point.toNat < ds.length then
      ds.take point.toNat ++ ['.'] ++ ds.drop point.toNat
    else
      ds ++ List.replicate (point.toNat - ds.length) '0' ++ ['.', '0']
  else
    let exponent := point - 1
    let mantissa := match ds with
      | [] => []
      | [d] => [d]
      | d :: rest => d :: '.' :: rest
    let sign := if exponent < 0 then '-' else '+'
    mantissa ++ ['e', sign] ++ ofNat exponent.natAbs

/-- A finite double as text; `none` for infinities and for what is no number. -/
def ofFloat? (x : Float) : Option (List Char) :=
  (Parts.ofFloat x).map fun p =>
    let body := if p.significand = 0 then ['0', '.', '0'] else plainOrScientific (shortest p)
    if p.negative then '-' :: body else body

/-- A finite non-negative double with `places` decimals, the exact value rounded, a tie to
the even neighbour. -/
def fixed (places : Nat) (p : Parts) : List Char :=
  let num := p.significand * Nat.pow 2 p.exponent * Nat.pow 10 places
  let den := Nat.pow 2 1074
  let below := num / den
  let twice := 2 * (num % den)
  let rounded :=
    if twice < den then below
    else if den < twice then below + 1
    else if below % 2 = 0 then below else below + 1
  ofNat (rounded / Nat.pow 10 places) ++ ['.'] ++ padded places rounded

end ScriptGateway.Decimal
