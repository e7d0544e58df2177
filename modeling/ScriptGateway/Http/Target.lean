import ScriptGateway.Http.Token
/-!
# Request targets

A target is in origin form (`/path?query`, or `*`), in authority form (`host:port`) or in
absolute form (`http://host/path?query`). A fragment is cut off.

* `Target.read?` tells the forms apart and checks the characters.
* `Target.path`, `Target.query?` and `Target.pathAndQuery?` are what the gateway looks at.
* `Authority.host` is the host of an authority without user information and port.
-/

namespace ScriptGateway.Http

/-! ## 1. Authorities -/

/-- Marks that an authority may hold besides ASCII letters and digits. -/
def authorityMarks : List Char :=
  ['!', '$', '&', '\x27', '(', ')', '*', '+', ',', '-', '.', ':', ';', '=', '@', '[', ']', '_',
    '~', '%']

/-- Characters of an authority. -/
def isAuthorityChar (c : Char) : Bool :=
  ('a' ≤ c && c ≤ 'z') || ('A' ≤ c && c ≤ 'Z') || ('0' ≤ c && c ≤ '9') || authorityMarks.contains c

/-- What was met of an authority so far. -/
structure AuthorityScan where
  /-- Colons since the last at sign or closing bracket. -/
  colons : Nat
  opened : Bool
  closed : Bool
  /-- Whether a percent sign was met since then. -/
  percent : Bool
  /-- Whether the last character was an at sign. -/
  endsInAt : Bool

namespace AuthorityScan

/-- Before the first character. -/
def start : AuthorityScan :=
  { colons := 0, opened := false, closed := false, percent := false, endsInAt := false }

/-- No host has more colons than this. -/
def maxColons : Nat := 8

/-- Reads one character. Brackets come once each and in order; an at sign ends the user
information, a closing bracket an address, and neither the colons nor the percent signs in
them count. -/
def feed (a : AuthorityScan) (c : Char) : Option AuthorityScan :=
  let a := { a with endsInAt := false }
  if !isAuthorityChar c then none
  else if c = ':' then
    if maxColons ≤ a.colons then none else some { a with colons := a.colons + 1 }
  else if c = '[' then
    if a.percent || a.opened then none else some { a with opened := true }
  else if c = ']' then
    if !a.opened || a.closed then none
    else some { a with closed := true, colons := 0, percent := false }
  else if c = '@' then some { a with colons := 0, percent := false, endsInAt := true }
  else if c = '%' then some { a with percent := true }
  else some a

/-- Whether an authority may end here: brackets matched, at most one colon, no percent sign
in the host, and a host after the user information. -/
def mayEnd (a : AuthorityScan) : Bool :=
  a.opened == a.closed && a.colons ≤ 1 && !a.endsInAt && !a.percent

end AuthorityScan

/-- Whether a text is an authority, or empty. -/
def isAuthorityText (s : List Char) : Bool :=
  match s.foldlM AuthorityScan.feed .start with
  | some a => a.mayEnd
  | none => false

/-- An authority: user information, host and port. -/
structure Authority where
  text : List Char
  deriving DecidableEq, Repr

namespace Authority

/-- The authority that a whole text spells. -/
def read? (s : List Char) : Option Authority :=
  if s.isEmpty || !isAuthorityText s then none else some ⟨s⟩

/-- The text after the last at sign. -/
def hostAndPort (a : Authority) : List Char :=
  (a.text.reverse.takeWhile (· != '@')).reverse

/-- The host. An address in brackets keeps them. -/
def host (a : Authority) : String :=
  String.ofList <|
    match a.hostAndPort with
    | '[' :: rest => '[' :: (rest.takeWhile (· != ']') ++ [']'])
    | s => s.takeWhile (· != ':')

end Authority

/-! ## 2. Paths and queries -/

/-- Characters of a path: visible ASCII but a few marks, and everything beyond ASCII. -/
def isPathChar (c : Char) : Bool :=
  c = '!' || c = '"' || ('$' ≤ c && c ≤ ';') || c = '=' || ('@' ≤ c && c ≤ '_')
    || ('a' ≤ c && c ≤ '~') || '\x7F' < c

/-- Characters of a query: visible ASCII but a few marks, and everything beyond ASCII. -/
def isQueryChar (c : Char) : Bool :=
  c = '!' || ('$' ≤ c && c ≤ ';') || c = '=' || ('?' ≤ c && c ≤ '~') || '\x7F' < c

/-- A path and a query. The path is empty only in an absolute form that has none. -/
structure PathAndQuery where
  path : List Char
  query : Option (List Char)
  deriving DecidableEq, Repr

namespace PathAndQuery

/-- Reads a path and a query up to the end or the fragment. -/
def read? (s : List Char) : Option PathAndQuery :=
  let s := s.takeWhile (· != '#')
  let path := s.takeWhile (· != '?')
  if !path.all isPathChar then none
  else
    match s.dropWhile (· != '?') with
    | [] => some { path, query := none }
    | _ :: query => if query.all isQueryChar then some { path, query := some query } else none

/-- The path; an empty one stands for the root. -/
def shownPath (p : PathAndQuery) : List Char :=
  if p.path.isEmpty then ['/'] else p.path

/-- Path and query as written; nothing at all stands for the root. -/
def shown (p : PathAndQuery) : List Char :=
  match p.query with
  | some query => p.path ++ '?' :: query
  | none => p.shownPath

end PathAndQuery

/-! ## 3. Targets -/

/-- A request target. -/
inductive Target where
  /-- A path and a query, or `*`. -/
  | origin (p : PathAndQuery)
  /-- A host alone. -/
  | authority (a : Authority)
  /-- A scheme, a host, a path and a query. -/
  | absolute (a : Authority) (p : PathAndQuery)
  deriving DecidableEq, Repr

namespace Target

/-- Targets of more bytes are refused. -/
def maxSize : Nat := 65534

/-- Schemes of more characters are refused. -/
def maxSchemeSize : Nat := 64

/-- Characters of a scheme. -/
def isSchemeChar (c : Char) : Bool :=
  ('a' ≤ c && c ≤ 'z') || ('A' ≤ c && c ≤ 'Z') || ('0' ≤ c && c ≤ '9')
    || c = '+' || c = '-' || c = '.' || c = '~'

/-- What follows a scheme and `://`; `none` if the text does not begin so. The flag tells
whether the scheme is short enough. -/
def afterScheme? (s : List Char) : Option (Bool × List Char) :=
  let scheme := s.takeWhile isSchemeChar
  match s.drop scheme.length with
  | ':' :: '/' :: '/' :: rest => some (scheme.length ≤ maxSchemeSize, rest)
  | _ => none

/-- Whether a character ends an authority. -/
def endsAuthority (c : Char) : Bool :=
  c = '/' || c = '?' || c = '#'

/-- Reads a target that does not begin with a slash. -/
def readFull? (s : List Char) : Option Target :=
  match afterScheme? s with
  | none => (Authority.read? s).map authority
  | some (false, _) => none
  | some (true, rest) => do
    let a ← Authority.read? (rest.takeWhile fun c => !endsAuthority c)
    let p ← PathAndQuery.read? (rest.dropWhile fun c => !endsAuthority c)
    return absolute a p

/-- Reads a target. -/
def read? (s : String) : Option Target :=
  if maxSize < s.utf8ByteSize then none
  else
    match s.toList with
    | [] => none
    | ['*'] => some (origin { path := ['*'], query := none })
    | '/' :: rest => (PathAndQuery.read? ('/' :: rest)).map origin
    | s => readFull? s

/-- The path that the gateway routes by. -/
def path : Target → String
  | origin p => String.ofList p.shownPath
  | authority _ => ""
  | absolute _ p => String.ofList p.shownPath

/-- The query, if there is one. -/
def query? : Target → Option String
  | origin p => p.query.map String.ofList
  | authority _ => none
  | absolute _ p => p.query.map String.ofList

/-- Path and query together, except in authority form. -/
def pathAndQuery? : Target → Option String
  | origin p => some (String.ofList p.shown)
  | authority _ => none
  | absolute _ p => some (String.ofList p.shown)

/-- The authority, except in origin form. -/
def authority? : Target → Option Authority
  | origin _ => none
  | authority a => some a
  | absolute a _ => some a

end Target

end ScriptGateway.Http
