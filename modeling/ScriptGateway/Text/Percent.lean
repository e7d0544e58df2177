import ScriptGateway.Text.Utf8
/-!
# Percent decoding

A URI path names a file by its percent-decoded bytes. A percent sign that no two
hexadecimal digits follow stands for itself.
-/

namespace ScriptGateway.Text

/-- The value of a hexadecimal digit, in either case. -/
def hexValue? (b : UInt8) : Option UInt8 :=
  if 0x30 ≤ b ∧ b ≤ 0x39 then some (b - 0x30)
  else if 0x41 ≤ b ∧ b ≤ 0x46 then some (b - 0x37)
  else if 0x61 ≤ b ∧ b ≤ 0x66 then some (b - 0x57)
  else none

/-- Puts each well-formed escape's byte in its place; decoded bytes are not decoded again. -/
def percentDecode : Bytes → Bytes
  | 0x25 :: high :: low :: rest =>
    match hexValue? high, hexValue? low with
    | some h, some l => (h * 16 + l) :: percentDecode rest
    | _, _ => 0x25 :: percentDecode (high :: low :: rest)
  | b :: rest => b :: percentDecode rest
  | [] => []

end ScriptGateway.Text
