/-!
# Natural numbers in decimal

* `ofNat` and `ofInt` write a number without leading zeros, `padded` with a fixed width.
* `readBelow` reads an unsigned number below a limit and says why a text is not one.
  An invalid character is reported only if no overflow was met before it.
-/

namespace ScriptGateway.Decimal

/-- The decimal digits of a number. -/
def ofNat (n : Nat) : List Char :=
  Nat.toDigits 10 n

/-- The decimal digits of a number, after a minus sign if it is negative. -/
def ofInt : Int → List Char
  | .ofNat n => ofNat n
  | .negSucc n => '-' :: ofNat (n + 1)

/-- The digit character of a number below ten. -/
def digitChar (d : Nat) : Char :=
  Char.ofNat (0x30 + d)

/-- The last `width` digits of `n`, with leading zeros. -/
def padded : Nat → Nat → List Char
  | 0, _ => []
  | width + 1, n => padded width (n / 10) ++ [digitChar (n % 10)]

/-- The value of an ASCII digit. -/
def digit? (c : Char) : Option Nat :=
  if '0' ≤ c ∧ c ≤ '9' then some (c.toNat - 0x30) else none

/-- Why a text is no number in range. -/
inductive ReadError where
  | empty
  | invalidDigit
  | tooLarge
  deriving DecidableEq, Repr

/-- The wording of a reading error. -/
def ReadError.message : ReadError → String
  | .empty => "cannot parse integer from empty string"
  | .invalidDigit => "invalid digit found in string"
  | .tooLarge => "number too large to fit in target type"

/-- Reads digits onto `value`; every number on the way must stay below `limit`. -/
def readDigits (limit : Nat) : Nat → List Char → Except ReadError Nat
  | value, [] => .ok value
  | value, c :: rest =>
    match digit? c with
    | none => .error .invalidDigit
    | some d =>
      if value * 10 + d < limit then readDigits limit (value * 10 + d) rest else .error .tooLarge

/-- Reads a number below `limit`: an optional plus sign and at least one digit. -/
def readBelow (limit : Nat) : List Char → Except ReadError Nat
  | [] => .error .empty
  | ['+'] => .error .invalidDigit
  | '+' :: digits => readDigits limit 0 digits
  | digits => readDigits limit 0 digits

/-- The number a text spells, if it is below `limit`. -/
def readBelow? (limit : Nat) (s : List Char) : Option Nat :=
  (readBelow limit s).toOption

/-- The numbers of a 32-bit word. -/
def shortWordLimit : Nat := 4294967296

/-- The numbers of a 64-bit word. -/
def wordLimit : Nat := 18446744073709551616

end ScriptGateway.Decimal
