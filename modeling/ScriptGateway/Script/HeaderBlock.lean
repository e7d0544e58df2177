import ScriptGateway.Decimal.Natural
import ScriptGateway.Text.Blank
import ScriptGateway.Text.Utf8
/-!
# Header blocks

A script builds its response headers as one text of lines. Lines are joined by a carriage
return and a line feed, and read back at every line feed, so a text added as one line may
hold several.

* `pairs` reads the names and values, in order.
* `addLine` adds a text at the end, `removeNamed` takes the lines of one name out.
-/

namespace ScriptGateway.Script.HeaderBlock

/-- The lines of a block, each perhaps with carriage returns at its end. -/
def lines (block : List Char) : List (List Char) :=
  block.splitOn '\n'

/-- The name and the value that a line holds, both trimmed. A line without a colon or with a
blank name holds none. -/
def pair? (line : List Char) : Option (String × String) :=
  match Text.splitOnce ':' (Text.dropEndWhile (· == '\r') line) with
  | none => none
  | some (before, after) =>
    let name := Text.trimChars before
    if name.isEmpty then none
    else some (String.ofList name, String.ofList (Text.trimChars after))

/-- The names and values of a block, in order. -/
def pairs (block : List Char) : List (String × String) :=
  (lines block).filterMap pair?

/-- The names and values of a block given as bytes; malformed bytes are replaced. -/
def pairsOfBytes (block : Bytes) : List (String × String) :=
  pairs (Text.Utf8.decodeLossy block)

/-- The value of the first pair with that name, in any case. -/
def find? (name : String) (pairs : List (String × String)) : Option String :=
  (pairs.find? fun (other, _) => Text.sameIgnoringCase other name).map (·.2)

/-- What stands between lines. -/
def lineEnd : List Char :=
  ['\r', '\n']

/-- The block with a text added as its last line. -/
def addLine (block line : List Char) : List Char :=
  if block.isEmpty then line else block ++ lineEnd ++ line

/-- Whether a line has that name, in any case and with white space around either. -/
def isNamed (name line : List Char) : Bool :=
  match Text.splitOnce ':' line with
  | some (before, _) => Text.eqIgnoringCase (Text.trimChars before) (Text.trimChars name)
  | none => false

/-- The block without the lines of a name. -/
def removeNamed (name block : List Char) : List Char :=
  if block.isEmpty then []
  else
    lineEnd.intercalate
      (((lines block).map (Text.dropOneEnd '\r')).filter fun line => !isNamed name line)

/-- How a line begins that sets the status instead of a header. -/
def statusLead : List Char :=
  ['H', 'T', 'T', 'P', '/']

/-- Whether a line sets the status. -/
def isStatusLine (line : List Char) : Bool :=
  statusLead.isPrefixOf line

/-- The status on such a line: its second word, a number of sixteen bits. -/
def statusOf? (line : List Char) : Option Nat :=
  match Text.words line with
  | _ :: code :: _ => Decimal.readBelow? 65536 code
  | _ => none

/-- The block of a response whose script left none. -/
def default : List Char :=
  "Content-Type: text/html; charset=utf-8\r\nX-Powered-By: php-embed-bridge".toList

end ScriptGateway.Script.HeaderBlock
