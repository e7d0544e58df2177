import ScriptGateway.Decimal.Numeral
import ScriptGateway.Json.Value
/-!
# Reading JSON texts

`read` accepts exactly one value with blanks around its tokens. A number with a fraction or
an exponent becomes a double, scaled and not nearest, and is refused beyond the doubles; any
other one is a whole number of any size. Escapes of surrogates must come in pairs.

The readers take the rest of the text and give back what they leave. Nesting is bounded by
the length of the text, which is the fuel.
-/

namespace ScriptGateway.Json

/-- Blanks of JSON. -/
def isSpace (c : Char) : Bool :=
  c = ' ' || c = '\n' || c = '\t' || c = '\r'

/-- The text after its leading blanks. -/
def skipSpace (s : List Char) : List Char :=
  s.dropWhile isSpace

/-- The value of a hexadecimal digit. -/
def hexDigit? (c : Char) : Option Nat :=
  if '0' ≤ c ∧ c ≤ '9' then some (c.toNat - 0x30)
  else if 'a' ≤ c ∧ c ≤ 'f' then some (c.toNat - 0x57)
  else if 'A' ≤ c ∧ c ≤ 'F' then some (c.toNat - 0x37)
  else none

/-- The number written by four hexadecimal digits. -/
def hexUnit? (a b c d : Char) : Option Nat := do
  let a ← hexDigit? a
  let b ← hexDigit? b
  let c ← hexDigit? c
  let d ← hexDigit? d
  return ((a * 16 + b) * 16 + c) * 16 + d

/-- The character of a one-letter escape. -/
def shortEscape? (c : Char) : Option Char :=
  if c = '"' then some '"'
  else if c = '\\' then some '\\'
  else if c = '/' then some '/'
  else if c = 'b' then some '\x08'
  else if c = 'f' then some '\x0c'
  else if c = 'n' then some '\n'
  else if c = 'r' then some '\r'
  else if c = 't' then some '\t'
  else none

/-- Reads the rest of a string after its opening quotation mark; `done` holds the
characters read so far, backwards. -/
def readString (done : List Char) : List Char → Option (String × List Char)
  | '"' :: rest => some (String.ofList done.reverse, rest)
  | '\\' :: 'u' :: a :: b :: c :: d :: rest => do
    let unit ← hexUnit? a b c d
    if 0xD800 ≤ unit ∧ unit < 0xDC00 then
      match rest with
      | '\\' :: 'u' :: e :: f :: g :: h :: rest => do
        let low ← hexUnit? e f g h
        if 0xDC00 ≤ low ∧ low < 0xE000 then
          readString (Char.ofNat (0x10000 + (unit - 0xD800) * 0x400 + (low - 0xDC00)) :: done) rest
        else none
      | _ => none
    else if 0xDC00 ≤ unit ∧ unit < 0xE000 then none
    else readString (Char.ofNat unit :: done) rest
  | '\\' :: c :: rest => do
    let meant ← shortEscape? c
    readString (meant :: done) rest
  | c :: rest => if c.toNat < 0x20 then none else readString (c :: done) rest
  | [] => none

/-- The value of a numeral. A zero with a minus sign is no whole number but the double of that
name. -/
def numeralValue? (n : Decimal.Numeral) : Option Value :=
  if n.isWhole then
    match n.negative, Int.ofNat (Decimal.digitsValue n.whole) with
    | false, value => some (.int value)
    | true, 0 => some (.float (-0.0))
    | true, value => some (.int (-value))
  else n.scaled?.map .float

/-- Reads a number from its first character on. -/
def readNumber (s : List Char) : Option (Value × List Char) := do
  let (n, rest) ← Decimal.Numeral.read? s
  let value ← numeralValue? n
  return (value, rest)

mutual

/-- Reads one value from its first character on. -/
def readValue (fuel : Nat) (s : List Char) : Option (Value × List Char) :=
  match fuel with
  | 0 => none
  | fuel + 1 =>
    match s with
    | 'n' :: 'u' :: 'l' :: 'l' :: rest => some (.null, rest)
    | 't' :: 'r' :: 'u' :: 'e' :: rest => some (.bool true, rest)
    | 'f' :: 'a' :: 'l' :: 's' :: 'e' :: rest => some (.bool false, rest)
    | '"' :: rest => (readString [] rest).map fun (s, rest) => (.text s, rest)
    | '[' :: rest =>
      match skipSpace rest with
      | ']' :: rest => some (.list [], rest)
      | rest => (readItems fuel rest).map fun (items, rest) => (.list items, rest)
    | '\x7b' :: rest =>
      match skipSpace rest with
      | '\x7d' :: rest => some (.object [], rest)
      | rest => (readFields fuel rest).map fun (fields, rest) => (.object fields, rest)
    | rest => readNumber rest

/-- Reads items up to the closing bracket. -/
def readItems (fuel : Nat) (s : List Char) : Option (List Value × List Char) :=
  match fuel with
  | 0 => none
  | fuel + 1 => do
    let (v, rest) ← readValue fuel s
    match skipSpace rest with
    | ',' :: rest =>
      let (items, rest) ← readItems fuel (skipSpace rest)
      return (v :: items, rest)
    | ']' :: rest => return ([v], rest)
    | _ => none

/-- Reads fields up to the closing brace. -/
def readFields (fuel : Nat) (s : List Char) : Option (List (String × Value) × List Char) :=
  match fuel with
  | 0 => none
  | fuel + 1 => do
    let (name, rest) ← match s with
      | '"' :: rest => readString [] rest
      | _ => none
    let rest ← match skipSpace rest with
      | ':' :: rest => some (skipSpace rest)
      | _ => none
    let (v, rest) ← readValue fuel rest
    match skipSpace rest with
    | ',' :: rest =>
      let (fields, rest) ← readFields fuel (skipSpace rest)
      return ((name, v) :: fields, rest)
    | '\x7d' :: rest => return ([(name, v)], rest)
    | _ => none

end

/-- The value a text spells, with blanks around it allowed. -/
def read (s : List Char) : Option Value :=
  match readValue (s.length + 1) (skipSpace s) with
  | some (v, rest) => if (skipSpace rest).isEmpty then some v else none
  | none => none

end ScriptGateway.Json
