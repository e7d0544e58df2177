import ScriptGateway.Text.Split
/-!
# White space

Configuration values, header names and header values are trimmed before use. White
space here is the Unicode property of that name, twenty-five characters in all, so a
no-break space or an ideographic space is trimmed like a blank.
-/

namespace ScriptGateway.Text

/-- The Unicode property `White_Space`. -/
def isBlank (c : Char) : Bool :=
  let v := c.toNat
  (9 ≤ v && v ≤ 13) || v == 0x20 || v == 0x85 || v == 0xA0 || v == 0x1680
    || (0x2000 ≤ v && v ≤ 0x200A) || v == 0x2028 || v == 0x2029 || v == 0x202F
    || v == 0x205F || v == 0x3000

/-- Without white space at either end. -/
def trimChars (s : List Char) : List Char :=
  trimBoth isBlank s

/-- Without white space at either end. -/
def trim (s : String) : String :=
  String.ofList (trimChars s.toList)

/-- The maximal runs of characters that are not white space, in order. -/
def words (s : List Char) : List (List Char) :=
  (s.splitOnP isBlank).filter fun word => !word.isEmpty

/-- ASCII letters to lower case; every other character stays. -/
def asciiLower (c : Char) : Char :=
  if 'A' ≤ c ∧ c ≤ 'Z' then Char.ofNat (c.toNat + 32) else c

/-- ASCII letters to upper case; every other character stays. -/
def asciiUpper (c : Char) : Char :=
  if 'a' ≤ c ∧ c ≤ 'z' then Char.ofNat (c.toNat - 32) else c

/-- Equality up to the case of ASCII letters. -/
def eqIgnoringCase (s t : List Char) : Bool :=
  s.map asciiLower == t.map asciiLower

/-- Equality of texts up to the case of ASCII letters. -/
def sameIgnoringCase (s t : String) : Bool :=
  eqIgnoringCase s.toList t.toList

end ScriptGateway.Text
