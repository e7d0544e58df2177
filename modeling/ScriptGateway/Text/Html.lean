/-!
# Text inside HTML

`escape` makes a text safe in element content and in attributes: no character of the escaped
text can open a tag or close a quoted attribute. `escapedSize` counts the bytes of the escaped
text in advance.
-/

namespace ScriptGateway.Text.Html

/-- The entity for a character that markup gives a meaning to. -/
def entity? : Char → Option (List Char)
  | '&' => some ['&', 'a', 'm', 'p', ';']
  | '<' => some ['&', 'l', 't', ';']
  | '>' => some ['&', 'g', 't', ';']
  | '"' => some ['&', 'q', 'u', 'o', 't', ';']
  | '\'' => some ['&', '#', '3', '9', ';']
  | _ => none

/-- A character, or its entity. -/
def escapeChar (c : Char) : List Char :=
  (entity? c).getD [c]

/-- Every special character as its entity. -/
def escapeChars (s : List Char) : List Char :=
  s.flatMap escapeChar

/-- Every special character as its entity. -/
def escape (s : String) : String :=
  String.ofList (escapeChars s.toList)

/-- The number of UTF-8 bytes that a character takes when escaped. -/
def escapedCharSize (c : Char) : Nat :=
  match entity? c with
  | some entity => entity.length
  | none => c.utf8Size

/-- The number of UTF-8 bytes that escaping produces, counted without producing them. -/
def escapedSizeOfChars : List Char → Nat
  | [] => 0
  | c :: rest => escapedCharSize c + escapedSizeOfChars rest

/-- The number of UTF-8 bytes that `escape` produces. -/
def escapedSize (s : String) : Nat :=
  escapedSizeOfChars s.toList

end ScriptGateway.Text.Html
