/-!
# UTF-8

Bodies, header blocks and file contents are byte sequences; names, scripts and
messages are texts. This module passes between the two.

* `encode` writes each character in its one shortest form.
* `Decoder.feed` reads one byte at a time. A byte that cannot continue the character
  begun before it closes that character as malformed and is then read afresh, so one
  malformed run counts once, however many of its bytes were in order.
* `decode?` refuses malformed input, `decodeLossy` puts U+FFFD for each malformed run.
-/

namespace ScriptGateway

/-- A byte sequence. -/
abbrev Bytes := List UInt8

namespace Text.Utf8

/-- The bytes of one character: one to four, the first telling how many. -/
def encodeChar (c : Char) : Bytes :=
  let v := c.toNat
  if v < 0x80 then
    [UInt8.ofNat v]
  else if v < 0x800 then
    [UInt8.ofNat (0xC0 + v / 64), UInt8.ofNat (0x80 + v % 64)]
  else if v < 0x10000 then
    [UInt8.ofNat (0xE0 + v / 4096), UInt8.ofNat (0x80 + v / 64 % 64), UInt8.ofNat (0x80 + v % 64)]
  else
    [UInt8.ofNat (0xF0 + v / 262144), UInt8.ofNat (0x80 + v / 4096 % 64),
      UInt8.ofNat (0x80 + v / 64 % 64), UInt8.ofNat (0x80 + v % 64)]

/-- The bytes of a character sequence. -/
def encode (s : List Char) : Bytes :=
  s.flatMap encodeChar

/-- Where a decoder stands: between characters, or inside one that still needs
`missing + 1` bytes, the next of them between `low` and `high`. -/
inductive Decoder where
  | between
  | inside (missing low high value : Nat)
  deriving DecidableEq, Repr

/-- One finding of the decoder: a character, or a malformed run. -/
abbrev Finding := Option Char

namespace Decoder

/-- Reads the first byte of a character. The bounds on the second byte exclude
overlong forms, surrogates and values above U+10FFFF. -/
def start (byte : UInt8) : List Finding × Decoder :=
  let b := byte.toNat
  if b < 0x80 then ([some (Char.ofNat b)], between)
  else if b < 0xC2 then ([none], between)
  else if b < 0xE0 then ([], inside 0 0x80 0xBF (b - 0xC0))
  else if b = 0xE0 then ([], inside 1 0xA0 0xBF 0)
  else if b = 0xED then ([], inside 1 0x80 0x9F 0xD)
  else if b < 0xF0 then ([], inside 1 0x80 0xBF (b - 0xE0))
  else if b = 0xF0 then ([], inside 2 0x90 0xBF 0)
  else if b < 0xF4 then ([], inside 2 0x80 0xBF (b - 0xF0))
  else if b = 0xF4 then ([], inside 2 0x80 0x8F 4)
  else ([none], between)

/-- Reads one byte. -/
def feed : Decoder → UInt8 → List Finding × Decoder
  | between, byte => start byte
  | inside missing low high value, byte =>
    let b := byte.toNat
    if low ≤ b ∧ b ≤ high then
      let value := value * 64 + (b - 0x80)
      match missing with
      | 0 => ([some (Char.ofNat value)], between)
      | missing + 1 => ([], inside missing 0x80 0xBF value)
    else
      let (found, next) := start byte
      (none :: found, next)

/-- Reads all bytes; a character left unfinished at the end is malformed. -/
def run : Decoder → Bytes → List Finding
  | between, [] => []
  | inside .., [] => [none]
  | d, byte :: rest =>
    let (found, next) := d.feed byte
    found ++ run next rest

end Decoder

/-- The characters of a well-formed byte sequence. -/
def decode? (bytes : Bytes) : Option (List Char) :=
  (Decoder.run .between bytes).mapM id

/-- The characters, with U+FFFD for each malformed run. -/
def decodeLossy (bytes : Bytes) : List Char :=
  (Decoder.run .between bytes).map (·.getD '\uFFFD')

end Text.Utf8

/-- The UTF-8 bytes of a text. -/
def Bytes.ofText (s : String) : Bytes :=
  Text.Utf8.encode s.toList

/-- The text a well-formed byte sequence spells. -/
def Bytes.toText? (bytes : Bytes) : Option String :=
  (Text.Utf8.decode? bytes).map String.ofList

/-- The text a byte sequence spells, with U+FFFD for each malformed run. -/
def Bytes.toTextLossy (bytes : Bytes) : String :=
  String.ofList (Text.Utf8.decodeLossy bytes)

end ScriptGateway
