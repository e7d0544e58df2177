import ScriptGateway.Decimal.Shortest
import ScriptGateway.Json.Value
/-!
# JSON values as text

The text has no blanks between tokens. Inside a string only the quotation mark, the
backslash and the control characters are escaped, the latter shortly where JSON has a
short form. A floating-point number that is infinite or no number is written as `null`.
-/

namespace ScriptGateway.Json

/-- A hexadecimal digit, in lower case. -/
def hexDigit (n : Nat) : Char :=
  Char.ofNat (if n < 10 then 0x30 + n else 0x57 + n)

/-- One character inside a string. -/
def escapedChar (c : Char) : List Char :=
  if c = '"' then ['\\', '"']
  else if c = '\\' then ['\\', '\\']
  else if c = '\x08' then ['\\', 'b']
  else if c = '\x09' then ['\\', 't']
  else if c = '\x0a' then ['\\', 'n']
  else if c = '\x0c' then ['\\', 'f']
  else if c = '\x0d' then ['\\', 'r']
  else if c.toNat < 0x20 then
    ['\\', 'u', '0', '0', hexDigit (c.toNat / 16), hexDigit (c.toNat % 16)]
  else [c]

/-- A string with its quotation marks. -/
def writeText (s : String) : List Char :=
  '"' :: (s.toList.flatMap escapedChar ++ ['"'])

mutual

/-- A value as text. -/
def write : Value → List Char
  | .null => ['n', 'u', 'l', 'l']
  | .bool true => ['t', 'r', 'u', 'e']
  | .bool false => ['f', 'a', 'l', 's', 'e']
  | .int n => Decimal.ofInt n
  | .float x => (Decimal.ofFloat? x).getD ['n', 'u', 'l', 'l']
  | .text s => writeText s
  | .list items => '[' :: (writeItems items ++ [']'])
  | .object fields => '\x7b' :: (writeFields fields ++ ['\x7d'])

/-- Items with commas between them. -/
def writeItems : List Value → List Char
  | [] => []
  | [v] => write v
  | v :: w :: rest => write v ++ ',' :: writeItems (w :: rest)

/-- Fields with commas between them. -/
def writeFields : List (String × Value) → List Char
  | [] => []
  | [(name, v)] => writeText name ++ ':' :: write v
  | (name, v) :: f :: rest => writeText name ++ ':' :: (write v ++ ',' :: writeFields (f :: rest))

end

/-- A value as text. -/
def Value.toText (v : Value) : String :=
  String.ofList (write v)

end ScriptGateway.Json
