import ScriptGateway.Decimal.Natural
import ScriptGateway.Text.Split
/-!
# Socket addresses

The listening address is configured as text, and both ends of a connection are shown to the
script. `SocketAddress.read?` takes `1.2.3.4:80` and `[::1%3]:80`; `SocketAddress.toText`
writes the shortest form, with the longest run of zero groups left out.
-/

namespace ScriptGateway.Net

/-- An address of version 4 (four octets) or version 6 (eight groups of sixteen bits). -/
inductive IpAddress where
  | v4 (a b c d : Nat)
  | v6 (groups : List Nat)
  deriving DecidableEq, Repr

/-- An address with a port; `scope` is the zone of a version 6 address, 0 for none. -/
structure SocketAddress where
  ip : IpAddress
  port : Nat
  scope : Nat
  deriving DecidableEq, Repr

/-! ## 1. Writing -/

/-- Four octets with points. -/
def octetsText (a b c d : Nat) : List Char :=
  ['.'].intercalate [Decimal.ofNat a, Decimal.ofNat b, Decimal.ofNat c, Decimal.ofNat d]

/-- Groups in hexadecimal with colons. -/
def groupsText (groups : List Nat) : List Char :=
  [':'].intercalate (groups.map (Nat.toDigits 16))

/-- The length of the run of zero groups at the front. -/
def zerosAhead (groups : List Nat) : Nat :=
  (groups.takeWhile (· == 0)).length

/-- Start and length of the first of the longest runs of zero groups. -/
def longestZeros : Nat → List Nat → Nat × Nat
  | _, [] => (0, 0)
  | position, group :: rest =>
    let here := zerosAhead (group :: rest)
    let (start, length) := longestZeros (position + 1) rest
    if length ≤ here then (position, here) else (start, length)

/-- An address without its port. A version 6 address that embeds one of version 4 shows it. -/
def IpAddress.toChars : IpAddress → List Char
  | .v4 a b c d => octetsText a b c d
  | .v6 [0, 0, 0, 0, 0, 0xFFFF, x, y] =>
    "::ffff:".toList ++ octetsText (x / 256) (x % 256) (y / 256) (y % 256)
  | .v6 groups =>
    let (start, length) := longestZeros 0 groups
    if 1 < length then
      groupsText (groups.take start) ++ [':', ':'] ++ groupsText (groups.drop (start + length))
    else
      groupsText groups

/-- An address without its port. -/
def IpAddress.toText (ip : IpAddress) : String :=
  String.ofList ip.toChars

/-- An address with its port; version 6 stands in brackets, with its zone if it has one. -/
def SocketAddress.toText (s : SocketAddress) : String :=
  String.ofList <|
    match s.ip with
    | .v4 .. => s.ip.toChars ++ ':' :: Decimal.ofNat s.port
    | .v6 _ =>
      let zone := if s.scope = 0 then [] else '%' :: Decimal.ofNat s.scope
      '[' :: (s.ip.toChars ++ zone ++ ']' :: ':' :: Decimal.ofNat s.port)

/-! ## 2. Reading -/

/-- A reader takes what it needs off the front of a text, or fails. -/
abbrev Reader (α : Type) := List Char → Option (α × List Char)

/-- One given character. -/
def readChar (c : Char) : Reader Unit
  | d :: rest => if d = c then some ((), rest) else none
  | [] => none

/-- The value of a digit below `base`, which is at most sixteen. -/
def digitBelow? (base : Nat) (c : Char) : Option Nat :=
  let value? :=
    if '0' ≤ c ∧ c ≤ '9' then some (c.toNat - 0x30)
    else if 'a' ≤ c ∧ c ≤ 'f' then some (c.toNat - 0x57)
    else if 'A' ≤ c ∧ c ≤ 'F' then some (c.toNat - 0x37)
    else none
  value?.filter (· < base)

/-- All digits at the front as a number below `limit`: at least one digit, at most `width` if
given, and no leading zero unless `zeros` allows it. -/
def readNumber (base : Nat) (width : Option Nat) (limit : Nat) (zeros : Bool) : Reader Nat :=
  fun s =>
    let (digits, rest) := s.span fun c => (digitBelow? base c).isSome
    let value := digits.foldl (fun v c => v * base + (digitBelow? base c).getD 0) 0
    let tooWide := match width with
      | some w => w < digits.length
      | none => false
    if digits.isEmpty || tooWide || (!zeros && digits.head? == some '0' && 1 < digits.length)
        || limit ≤ value then
      none
    else
      some (value, rest)

/-- One octet of a version 4 address. -/
def readOctet : Reader Nat :=
  readNumber 10 (some 3) 256 false

/-- Four octets with points between them. -/
def readOctets : Reader (Nat × Nat × Nat × Nat) := fun s => do
  let (a, s) ← readOctet s
  let ((), s) ← readChar '.' s
  let (b, s) ← readOctet s
  let ((), s) ← readChar '.' s
  let (c, s) ← readOctet s
  let ((), s) ← readChar '.' s
  let (d, s) ← readOctet s
  return ((a, b, c, d), s)

/-- As many groups as there are and as fit into `room`, with colons between them. A version 4
address may stand for the last two, which the flag tells. -/
def readGroups : Nat → Bool → List Char → List Nat × Bool × List Char
  | 0, _, s => ([], false, s)
  | room + 1, isFirst, s =>
    match if isFirst then some s else (readChar ':' s).map (·.2) with
    | none => ([], false, s)
    | some t =>
      match if room = 0 then none else readOctets t with
      | some ((a, b, c, d), rest) => ([a * 256 + b, c * 256 + d], true, rest)
      | none =>
        match readNumber 16 (some 4) 65536 true t with
        | some (group, rest) =>
          let (groups, embedded, rest) := readGroups room false rest
          (group :: groups, embedded, rest)
        | none => ([], false, s)

/-- A version 6 address: eight groups, or fewer around one double colon that stands for at
least one group of zeros. -/
def readV6 : Reader (List Nat) := fun s =>
  let (head, embedded, s) := readGroups 8 true s
  if head.length = 8 then some (head, s)
  else if embedded then none
  else do
    let ((), s) ← readChar ':' s
    let ((), s) ← readChar ':' s
    let (tail, _, s) := readGroups (8 - (head.length + 1)) true s
    return (head ++ List.replicate (8 - head.length - tail.length) 0 ++ tail, s)

/-- A colon and a port. -/
def readPort : Reader Nat := fun s => do
  let ((), s) ← readChar ':' s
  readNumber 10 none 65536 true s

/-- The zone of a version 6 address; none counts as zone 0. -/
def readZone (s : List Char) : Nat × List Char :=
  let zone? := do
    let ((), s) ← readChar '%' s
    readNumber 10 none Decimal.shortWordLimit true s
  zone?.getD (0, s)

/-- A socket address at the front of a text. -/
def readSocketAddress : Reader SocketAddress := fun s =>
  let v4? := do
    let ((a, b, c, d), s) ← readOctets s
    let (port, s) ← readPort s
    return ({ ip := .v4 a b c d, port, scope := 0 : SocketAddress }, s)
  match v4? with
  | some found => some found
  | none => do
    let ((), s) ← readChar '[' s
    let (groups, s) ← readV6 s
    let (scope, s) := readZone s
    let ((), s) ← readChar ']' s
    let (port, s) ← readPort s
    return ({ ip := .v6 groups, port, scope }, s)

/-- The socket address that a whole text spells. -/
def SocketAddress.read? (s : String) : Option SocketAddress :=
  match readSocketAddress s.toList with
  | some (address, []) => some address
  | _ => none

end ScriptGateway.Net
