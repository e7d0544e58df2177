import ScriptGateway.Json.Reader
import ScriptGateway.Text.Utf8
/-!
# The project description `composer.json`

Of the description only the constraint on the interpreter is wanted, the text `php` in the
table `require`. That table is read strictly: every name and every value must be a
well-formed string. What stands under any other name is passed over without looking into its
strings or at the size of its numbers, so it need not even be UTF-8. The description may also
be an array whose only element is the table.

The readers work on bytes, take what they need off the front and give back the rest.
-/

namespace ScriptGateway.Project.Composer

/-- Takes something off the front of a byte sequence, or fails. -/
abbrev Reader (α : Type) := Bytes → Option (α × Bytes)

/-- The byte of an ASCII character. -/
def byte (c : Char) : UInt8 :=
  UInt8.ofNat c.toNat

/-- The bytes after their leading JSON blanks. -/
def skipSpace (s : Bytes) : Bytes :=
  s.dropWhile fun b => b == 0x20 || b == 0x0A || b == 0x09 || b == 0x0D

/-- Takes off one given byte. -/
def expect (b : UInt8) (s : Bytes) : Option Bytes :=
  match s with
  | c :: rest => if c = b then some rest else none
  | [] => none

/-! ## 1. Strings that count -/

/-- Reads the rest of a string after its opening quotation mark; `done` holds its bytes read so
far, backwards. -/
def readStringBytes (done : Bytes) : Reader Bytes
  | 0x22 :: rest => some (done.reverse, rest)
  | 0x5C :: 0x75 :: a :: b :: c :: d :: rest => do
    let unit ← hexUnit? a b c d
    if 0xD800 ≤ unit ∧ unit < 0xDC00 then
      match rest with
      | 0x5C :: 0x75 :: e :: f :: g :: h :: rest => do
        let low ← hexUnit? e f g h
        if 0xDC00 ≤ low ∧ low < 0xE000 then
          let c := Char.ofNat (0x10000 + (unit - 0xD800) * 0x400 + (low - 0xDC00))
          readStringBytes ((Text.Utf8.encodeChar c).reverse ++ done) rest
        else none
      | _ => none
    else if 0xDC00 ≤ unit ∧ unit < 0xE000 then none
    else readStringBytes ((Text.Utf8.encodeChar (Char.ofNat unit)).reverse ++ done) rest
  | 0x5C :: b :: rest => do
    let meant ← Json.shortEscape? (Char.ofNat b.toNat)
    readStringBytes ((Text.Utf8.encodeChar meant).reverse ++ done) rest
  | b :: rest => if b < 0x20 then none else readStringBytes (b :: done) rest
  | [] => none
where
  /-- The number written by four hexadecimal digits. -/
  hexUnit? (a b c d : UInt8) : Option Nat :=
    Json.hexUnit? (Char.ofNat a.toNat) (Char.ofNat b.toNat) (Char.ofNat c.toNat)
      (Char.ofNat d.toNat)

/-- Reads a string from its opening quotation mark on; it must be UTF-8. -/
def readString : Reader String := fun s => do
  let rest ← expect 0x22 s
  let (bytes, rest) ← readStringBytes [] rest
  let text ← Bytes.toText? bytes
  return (text, rest)

/-! ## 2. Values that are passed over -/

/-- Whether a byte is a hexadecimal digit. -/
def isHex (b : UInt8) : Bool :=
  (Json.hexDigit? (Char.ofNat b.toNat)).isSome

/-- The rest after a string, from after its opening quotation mark. -/
def skipString : Bytes → Option Bytes
  | 0x22 :: rest => some rest
  | 0x5C :: 0x75 :: a :: b :: c :: d :: rest =>
    if isHex a && isHex b && isHex c && isHex d then skipString rest else none
  | 0x5C :: b :: rest =>
    if (Json.shortEscape? (Char.ofNat b.toNat)).isSome then skipString rest else none
  | b :: rest => if b < 0x20 then none else skipString rest
  | [] => none

/-- Whether a byte is an ASCII digit. -/
def isDigit (b : UInt8) : Bool :=
  0x30 ≤ b && b ≤ 0x39

/-- The rest after at least one digit. -/
def skipDigits : Bytes → Option Bytes
  | b :: rest => if isDigit b then some (rest.dropWhile isDigit) else none
  | [] => none

/-- The rest after an exponent, if there is one. -/
def skipExponent (s : Bytes) : Option Bytes :=
  match s with
  | b :: rest =>
    if b = byte 'e' || b = byte 'E' then
      match rest with
      | 0x2B :: rest => skipDigits rest
      | 0x2D :: rest => skipDigits rest
      | rest => skipDigits rest
    else some s
  | [] => some s

/-- The rest after a number without its sign. -/
def skipUnsigned (s : Bytes) : Option Bytes := do
  let rest ← match s with
    | 0x30 :: b :: rest => if isDigit b then none else some (b :: rest)
    | 0x30 :: [] => some []
    | s => skipDigits s
  match rest with
  | 0x2E :: rest => skipDigits rest >>= skipExponent
  | rest => skipExponent rest

mutual

/-- The rest after one value. The fuel bounds the nesting. -/
def skipValue (fuel : Nat) (s : Bytes) : Option Bytes :=
  match fuel with
  | 0 => none
  | fuel + 1 =>
    match s with
    | 0x6E :: 0x75 :: 0x6C :: 0x6C :: rest => some rest
    | 0x74 :: 0x72 :: 0x75 :: 0x65 :: rest => some rest
    | 0x66 :: 0x61 :: 0x6C :: 0x73 :: 0x65 :: rest => some rest
    | 0x22 :: rest => skipString rest
    | 0x5B :: rest =>
      match skipSpace rest with
      | 0x5D :: rest => some rest
      | rest => skipItems fuel rest
    | 0x7B :: rest =>
      match skipSpace rest with
      | 0x7D :: rest => some rest
      | rest => skipFields fuel rest
    | 0x2D :: rest => skipUnsigned rest
    | rest => skipUnsigned rest

/-- The rest after items and the bracket that closes them. -/
def skipItems (fuel : Nat) (s : Bytes) : Option Bytes :=
  match fuel with
  | 0 => none
  | fuel + 1 => do
    let rest ← skipValue fuel s
    match skipSpace rest with
    | 0x2C :: rest => skipItems fuel (skipSpace rest)
    | 0x5D :: rest => some rest
    | _ => none

/-- The rest after fields and the brace that closes them. -/
def skipFields (fuel : Nat) (s : Bytes) : Option Bytes :=
  match fuel with
  | 0 => none
  | fuel + 1 => do
    let rest ← expect 0x22 s >>= skipString
    let rest ← expect (byte ':') (skipSpace rest)
    let rest ← skipValue fuel (skipSpace rest)
    match skipSpace rest with
    | 0x2C :: rest => skipFields fuel (skipSpace rest)
    | 0x7D :: rest => some rest
    | _ => none

end

/-! ## 3. The description -/

/-- Names and texts, the later entries first. -/
abbrev Table := List (String × String)

/-- Reads entries up to the closing brace; the fuel bounds their number. -/
def readEntries (fuel : Nat) (done : Table) (s : Bytes) : Option (Table × Bytes) :=
  match fuel with
  | 0 => none
  | fuel + 1 => do
    let (name, rest) ← readString s
    let rest ← expect (byte ':') (skipSpace rest)
    let (value, rest) ← readString (skipSpace rest)
    let done := (name, value) :: done
    match skipSpace rest with
    | 0x2C :: rest => readEntries fuel done (skipSpace rest)
    | 0x7D :: rest => some (done, rest)
    | _ => none

/-- Reads a table of texts. -/
def readTable : Reader Table := fun s => do
  let rest ← expect 0x7B s
  match skipSpace rest with
  | 0x7D :: rest => some ([], rest)
  | rest => readEntries (rest.length + 1) [] rest

/-- Reads the fields of the description up to the closing brace; `found` is the table
`require` once it was met, and it must not come twice. -/
def readFields (fuel : Nat) (found : Option Table) (s : Bytes) : Option (Option Table × Bytes) :=
  match fuel with
  | 0 => none
  | fuel + 1 => do
    let (name, rest) ← readString s
    let rest ← expect (byte ':') (skipSpace rest)
    let rest := skipSpace rest
    let (found, rest) ←
      if name = "require" then
        if found.isSome then none else (readTable rest).map fun (t, rest) => (some t, rest)
      else (skipValue (rest.length + 1) rest).map fun rest => (found, rest)
    match skipSpace rest with
    | 0x2C :: rest => readFields fuel found (skipSpace rest)
    | 0x7D :: rest => some (found, rest)
    | _ => none

/-- Reads a description: an object, or an array of at most the table. -/
def readDescription : Reader Table := fun s =>
  match s with
  | 0x7B :: rest =>
    match skipSpace rest with
    | 0x7D :: rest => some ([], rest)
    | rest => (readFields (rest.length + 1) none rest).map fun (t, rest) => (t.getD [], rest)
  | 0x5B :: rest =>
    match skipSpace rest with
    | 0x5D :: rest => some ([], rest)
    | rest => do
      let (t, rest) ← readTable rest
      let rest ← expect 0x5D (skipSpace rest)
      return (t, rest)
  | _ => none

/-- The constraint on the interpreter in a project description. -/
def constraint? (content : Bytes) : Option String :=
  match readDescription (skipSpace content) with
  | some (table, rest) =>
    if (skipSpace rest).isEmpty then table.lookup "php" else none
  | none => none

end ScriptGateway.Project.Composer
