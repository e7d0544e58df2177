/-!
# The exact value of a binary floating-point number

A finite double is `significand * 2 ^ exponent`. `Parts.ofFloat` reads both off its bits,
so that everything printed about it can be computed in whole numbers.
-/

namespace ScriptGateway.Decimal

/-- A finite double: `significand * 2 ^ (exponent - 1074)`, negative if `negative`.
`nearBelow` holds if the gap to the next smaller double is half the gap to the next larger. -/
structure Parts where
  negative : Bool
  significand : Nat
  exponent : Nat
  nearBelow : Bool
  deriving DecidableEq, Repr

/-- The fraction of a double has 52 bits. -/
def fractionLimit : Nat := 4503599627370496

/-- The parts of a finite double; `none` for infinities and for what is no number. -/
def Parts.ofFloat (x : Float) : Option Parts :=
  let bits := x.toBits.toNat
  let field := bits / fractionLimit % 2048
  let fraction := bits % fractionLimit
  let negative := bits / 9223372036854775808 == 1
  if field = 2047 then
    none
  else if field = 0 then
    some { negative, significand := fraction, exponent := 0, nearBelow := false }
  else
    some {
      negative
      significand := fraction + fractionLimit
      exponent := field - 1
      nearBelow := fraction == 0 && field > 1 }

end ScriptGateway.Decimal
