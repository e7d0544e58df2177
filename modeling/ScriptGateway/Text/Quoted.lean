import ScriptGateway.Text.VisibleTable
/-!
# Quoted texts

A message that shows a value given from outside puts it between quotation marks, with
everything that would not be seen written as an escape.
-/

namespace ScriptGateway.Text

/-- A number in lower-case hexadecimal, without leading zeros. -/
def hexText (n : Nat) : List Char :=
  Nat.toDigits 16 n

/-- How one character is written between quotation marks. -/
def quotedChar (c : Char) : List Char :=
  if c = '\x00' then ['\\', '0']
  else if c = '\t' then ['\\', 't']
  else if c = '\r' then ['\\', 'r']
  else if c = '\n' then ['\\', 'n']
  else if c = '"' then ['\\', '"']
  else if c = '\\' then ['\\', '\\']
  else if inRanges combiningRanges c || inRanges shapelessRanges c then
    ['\\', 'u', '\x7b'] ++ hexText c.toNat ++ ['\x7d']
  else [c]

/-- A text between quotation marks. -/
def quoted (s : String) : String :=
  String.ofList ('"' :: (s.toList.flatMap quotedChar ++ ['"']))

/-- Texts between quotation marks, in brackets. -/
def quotedList (texts : List String) : String :=
  "[" ++ joinedWithComma (texts.map quoted) ++ "]"
where
  /-- The texts with a comma and a blank between neighbours. -/
  joinedWithComma (parts : List String) : String :=
    String.ofList ([',', ' '].intercalate (parts.map String.toList))

end ScriptGateway.Text
