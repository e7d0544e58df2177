import ScriptGateway.Text.CaseProperties
import ScriptGateway.Text.LowercaseTable
/-!
# Lower case

The full Unicode mapping of a text to lower case. Two capitals do not map one to one:
a capital I with a dot becomes an i followed by a combining dot, and a capital sigma
takes its final form where it ends a word.
-/

namespace ScriptGateway.Text

/-- The small letter of a character that has one, by the table. -/
def lowerSimple (c : Char) : Char :=
  let v := c.toNat
  match lowercaseRuns.find? fun (first, last, stride, _) =>
      first ≤ v && v ≤ last && (v - first) % stride == 0 with
  | some (first, _, _, image) => Char.ofNat (image + (v - first))
  | none => c

/-- Whether the first character that is not case-ignorable is a cased one. -/
def meetsCased (s : List Char) : Bool :=
  match s.dropWhile (inRanges caseIgnorableRanges) with
  | [] => false
  | c :: _ => inRanges casedRanges c

/-- The small sigma that stands between `before` (backwards) and `after`. -/
def lowerSigma (before after : List Char) : Char :=
  if meetsCased before && !meetsCased after then 'ς' else 'σ'

/-- A text in lower case. -/
def lowerChars (s : List Char) : List Char :=
  go [] s
where
  /-- `before` holds the characters already passed, backwards. -/
  go (before : List Char) : List Char → List Char
    | [] => []
    | c :: rest =>
      if c = 'Σ' then lowerSigma before rest :: go (c :: before) rest
      else if c = 'İ' then 'i' :: '\u0307' :: go (c :: before) rest
      else lowerSimple c :: go (c :: before) rest

end ScriptGateway.Text
