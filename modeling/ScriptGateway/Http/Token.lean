import ScriptGateway.Text.Blank
import ScriptGateway.Text.Utf8
/-!
# Tokens and field values

A method and the name of a header field are tokens; a field's value is a byte sequence
without control characters. Values that the gateway itself looks into are visible ASCII.
-/

namespace ScriptGateway.Http

/-- Marks that a token may hold besides ASCII letters and digits. -/
def tokenMarks : List Char :=
  ['!', '#', '$', '%', '&', '\x27', '*', '+', '-', '.', '^', '_', '\x60', '|', '~']

/-- Characters of a token. -/
def isTokenChar (c : Char) : Bool :=
  ('a' ≤ c && c ≤ 'z') || ('A' ≤ c && c ≤ 'Z') || ('0' ≤ c && c ≤ '9') || tokenMarks.contains c

/-- Whether a text is a token: not empty, and of token characters only. -/
def isToken (s : List Char) : Bool :=
  !s.isEmpty && s.all isTokenChar

/-- The name of a header field in lower case, if the text is a token. -/
def fieldName? (s : String) : Option String :=
  if isToken s.toList then some (String.ofList (s.toList.map Text.asciiLower)) else none

/-- Whether a character is a tab or lies between the blank and the tilde. -/
def isVisible (c : Char) : Bool :=
  c == '\t' || (' ' ≤ c && c ≤ '~')

/-- Bytes of a field value: no control characters but the tab. -/
def isFieldByte (b : UInt8) : Bool :=
  b == 9 || (0x20 ≤ b && b != 0x7F)

/-- A text as a field value, if it may be one. -/
def fieldValue? (s : String) : Option Bytes :=
  let value := Bytes.ofText s
  if value.all isFieldByte then some value else none

/-- The text of a field value, if every byte is a visible character. -/
def visibleText? (value : Bytes) : Option String :=
  let text := value.map fun b => Char.ofNat b.toNat
  if text.all isVisible then some (String.ofList text) else none

end ScriptGateway.Http
