import ScriptGateway.Http.Token
/-!
# Header fields

The fields of a request or a response in the order of arrival, with names in lower case. A
name may occur more than once.

* `names` lists each name once, in order of first appearance.
* `values` lists the values of one name, in order of arrival.
* `grouped` puts the values of a name together, which is the order in which fields are sent.
-/

namespace ScriptGateway.Http

/-- Header fields. -/
structure Headers where
  fields : List (String × Bytes)
  deriving DecidableEq, Repr

namespace Headers

/-- No field. -/
def empty : Headers :=
  ⟨[]⟩

/-- One more field at the end; the name is in lower case. -/
def append (h : Headers) (name : String) (value : Bytes) : Headers :=
  ⟨h.fields ++ [(name, value)]⟩

/-- The values of a name. -/
def values (h : Headers) (name : String) : List Bytes :=
  (h.fields.filter (·.1 = name)).map (·.2)

/-- The first value of a name. -/
def first? (h : Headers) (name : String) : Option Bytes :=
  (h.values name).head?

/-- Whether a name occurs. -/
def contains (h : Headers) (name : String) : Bool :=
  h.fields.any (·.1 = name)

/-- Each name once, in order of first appearance. -/
def names (h : Headers) : List String :=
  (h.fields.map (·.1)).eraseDups

/-- The fields with all values of a name together. -/
def grouped (h : Headers) : List (String × Bytes) :=
  h.names.flatMap fun name => (h.values name).map fun value => (name, value)

/-- The values of a name as one text; malformed bytes are replaced. -/
def joined (h : Headers) (name separator : String) : String :=
  Text.joinTexts separator ((h.values name).map Bytes.toTextLossy)

/-- What the client sent as cookies: the visible values, trimmed, without empty ones. -/
def cookieTexts (h : Headers) : List String :=
  (((h.values "cookie").filterMap visibleText?).map Text.trim).filter (· ≠ "")

/-- All cookies as one text, if there are any. -/
def cookies? (h : Headers) : Option String :=
  match h.cookieTexts with
  | [] => none
  | texts => some (Text.joinTexts "; " texts)

/-- Reads fields as received: every name a token, every value without control characters. -/
def ofFields? (fields : List (String × Bytes)) : Option Headers := do
  let read ← fields.mapM fun (name, value) => do
    let name ← fieldName? name
    if value.all isFieldByte then some (name, value) else none
  return ⟨read⟩

end Headers

end ScriptGateway.Http
