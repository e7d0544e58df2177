import ScriptGateway.Proofs.Text.Ascii
import ScriptGateway.Proofs.Text.Utf8
import ScriptGateway.Site.Reply
/-!
# What a reply carries of a script's response

Each header pair that can be sent becomes one field, in the order of the block, and a pair that
cannot is left out alone. A value is judged by its bytes: what is left out are control characters,
while a character beyond ASCII is sent as it is.

* `isValueChar`: the characters of a value; `all_isFieldByte_ofText`: they are what its bytes say.
* `lowered`: a name as it is sent; `lowered_eq_iff`: names that are sent as one.
* `fields_ofScript`: the fields of a reply.
* `Carried`, `response_carried`: status, body and fields of every response.
* `accented_carried`: a value beyond ASCII.
-/

namespace ScriptGateway.Reply

/-! ## 1. Characters of a value -/

/-- Whether a value may hold a character: the visible ones and the tab, and all beyond ASCII. -/
def isValueChar (c : Char) : Bool :=
  Http.isVisible c || 0x80 ≤ c.toNat

theorem isFieldByte_of_le {b : UInt8} (h : 0x80 ≤ b.toNat) : Http.isFieldByte b = true := by
  have blank : 0x20 ≤ b := UInt8.le_iff_toNat_le.mpr (Nat.le_trans (by decide) h)
  have delete : b ≠ 0x7F := by
    rintro rfl
    exact absurd h (by decide)
  simp [Http.isFieldByte, blank, delete]

theorem all_isFieldByte_encodeChar (c : Char) :
    (Text.Utf8.encodeChar c).all Http.isFieldByte = isValueChar c := by
  refine Text.forall_char
    (P := fun c => (Text.Utf8.encodeChar c).all Http.isFieldByte = isValueChar c)
    (by decide) (fun c h => ?_) c
  rw [isValueChar, decide_eq_true h, Bool.or_true, List.all_eq_true]
  exact fun b hb => isFieldByte_of_le (Text.Utf8.le_of_mem_encodeChar (Nat.le_refl _) h hb)

/-- **The bytes of a value are judged as its characters are.** -/
theorem all_isFieldByte_ofText (s : String) :
    (Bytes.ofText s).all Http.isFieldByte = s.toList.all isValueChar := by
  rw [Bytes.ofText, Text.Utf8.encode, List.all_flatMap]
  simp only [all_isFieldByte_encodeChar]

/-! ## 2. Names -/

/-- A name as it is sent. -/
def lowered (name : String) : String :=
  String.ofList (name.toList.map Text.asciiLower)

/-- **Names that differ in case only are sent as one.** -/
theorem lowered_eq_iff (a b : String) :
    lowered a = lowered b ↔ Text.sameIgnoringCase a b = true := by
  unfold lowered Text.sameIgnoringCase Text.eqIgnoringCase
  rw [String.ofList_inj, beq_iff_eq]

theorem lowered_server : lowered "server" = "server" := by
  decide +kernel

/-! ## 3. Fields -/

/-- Whether a pair can be sent if a value may hold these characters: its name is a token. -/
def canSend (allowed : Char → Bool) (pair : String × String) : Bool :=
  Http.isToken pair.1.toList && pair.2.toList.all allowed

/-- The pairs of a response that can be sent, in the order of the block. -/
def sendable (allowed : Char → Bool) (r : Script.Response) : List (String × String) :=
  r.headerPairs.filter (canSend allowed)

/-- Whether a pair has a name, in any case. -/
def hasName (name : String) (pair : String × String) : Bool :=
  Text.sameIgnoringCase pair.1 name

/-- The field of a pair that can be sent. -/
def field (pair : String × String) : String × Bytes :=
  (lowered pair.1, Bytes.ofText pair.2)

/-- The field that names the gateway, unless one of the pairs has its name. -/
def serverField (pairs : List (String × String)) : List (String × Bytes) :=
  if pairs.any (hasName "server") then [] else [("server", Bytes.ofText Http.serverSoftware)]

theorem field?_eq (pair : String × String) :
    field? pair = if canSend isValueChar pair then some (field pair) else none := by
  unfold field? Http.fieldName? Http.fieldValue? canSend
  dsimp only
  rw [all_isFieldByte_ofText]
  cases Http.isToken pair.1.toList with
  | false => rfl
  | true => cases pair.2.toList.all isValueChar <;> rfl

theorem filterMap_field? (pairs : List (String × String)) :
    pairs.filterMap field? = (pairs.filter (canSend isValueChar)).map field := by
  induction pairs with
  | nil => rfl
  | cons pair pairs ih =>
    rw [List.filterMap_cons, List.filter_cons, field?_eq, ih]
    cases canSend isValueChar pair <;> rfl

theorem decide_lowered_eq (pair : String × String) (name : String) :
    decide (lowered pair.1 = lowered name) = hasName name pair := by
  rw [Bool.eq_iff_iff, decide_eq_true_iff]
  exact lowered_eq_iff pair.1 name

theorem contains_field (pairs : List (String × String)) (name : String) :
    (Http.Headers.mk (pairs.map field)).contains (lowered name) = pairs.any (hasName name) := by
  unfold Http.Headers.contains
  rw [List.any_map]
  exact congrArg pairs.any (funext fun pair => decide_lowered_eq pair name)

theorem filter_field (pairs : List (String × String)) (name : String) :
    ((pairs.map field).filter (·.1 = lowered name)).map (·.2) =
      (pairs.filter (hasName name)).map (Bytes.ofText ·.2) := by
  have same : pairs.filter (fun pair => decide ((field pair).1 = lowered name)) =
      pairs.filter (hasName name) :=
    List.filter_congr fun pair _ => decide_lowered_eq pair name
  rw [List.filter_map, List.map_map]
  exact congrArg _ same

/-- **The fields of a reply**: those of the pairs that can be sent, and the gateway's at most. -/
theorem fields_ofScript (r : Script.Response) : (ofScript r).headers.fields =
    (sendable isValueChar r).map field ++ serverField (sendable isValueChar r) := by
  show (ensureServer ⟨r.headerPairs.filterMap field?⟩).fields = _
  rw [filterMap_field?]
  show (ensureServer ⟨(sendable isValueChar r).map field⟩).fields = _
  have server := contains_field (sendable isValueChar r) "server"
  rw [lowered_server] at server
  unfold ensureServer serverField
  rw [← server]
  split
  · exact (List.append_nil _).symm
  · rfl

theorem names_ofScript (r : Script.Response) : (ofScript r).headers.names =
    ((sendable isValueChar r).map (lowered ·.1)).eraseDups ++
      (serverField (sendable isValueChar r)).map (·.1) := by
  unfold Http.Headers.names
  rw [fields_ofScript, List.map_append, List.map_map]
  show ((sendable isValueChar r).map (lowered ·.1) ++ _).eraseDups = _
  unfold serverField
  split
  · rw [List.map_nil, List.append_nil, List.append_nil]
  · next none =>
    have absent : "server" ∉ (sendable isValueChar r).map (lowered ·.1) := by
      intro hm
      obtain ⟨pair, hp, e⟩ := List.mem_map.mp hm
      rw [← lowered_server, lowered_eq_iff] at e
      exact none (List.any_eq_true.mpr ⟨pair, hp, e⟩)
    rw [List.eraseDups_append]
    simp [List.removeAll, absent, List.eraseDups_cons]

/-! ## 4. Responses -/

/-- **What a reply carries of a response**, if a value may hold these characters. -/
structure Carried (allowed : Char → Bool) (r : Script.Response) : Prop where
  body : (ofScript r).body = r.body
  status : (ofScript r).status = if 100 ≤ r.status ∧ r.status ≤ 999 then r.status else 500
  /-- Every pair that can be sent is one field, in the order of the block. The one field that may
  follow names the gateway, if no pair does. -/
  fields : (ofScript r).headers.fields =
    (sendable allowed r).map field ++ serverField (sendable allowed r)
  /-- A name has the values of the pairs of that name, in any case, in the order of the block. -/
  values : ∀ name, lowered name ≠ "server" ∨
      (sendable allowed r).any (hasName "server") = true →
    (ofScript r).headers.values (lowered name) =
      ((sendable allowed r).filter (hasName name)).map (Bytes.ofText ·.2)
  /-- If no pair has the name of that field, its one value is the gateway's. -/
  server : (sendable allowed r).any (hasName "server") = false →
    (ofScript r).headers.values "server" = [Bytes.ofText Http.serverSoftware]
  /-- The names are those of the pairs in lower case, in order of first appearance. -/
  names : (ofScript r).headers.names =
    ((sendable allowed r).map (lowered ·.1)).eraseDups ++
      (serverField (sendable allowed r)).map (·.1)

/-- **A reply loses and invents nothing of a response**, whatever its bytes. -/
theorem response_carried (r : Script.Response) : Carried isValueChar r where
  body := rfl
  status := rfl
  fields := fields_ofScript r
  values name h := by
    unfold Http.Headers.values
    rw [fields_ofScript, List.filter_append, List.map_append, filter_field]
    have nothing : (serverField (sendable isValueChar r)).filter (·.1 = lowered name) = [] := by
      unfold serverField
      split
      · rfl
      · next none =>
        have other : ¬ "server" = lowered name := (h.resolve_right none).symm
        simp [other]
    rw [nothing, List.map_nil, List.append_nil]
  server none := by
    have own : (sendable isValueChar r).filter (hasName "server") = [] :=
      List.filter_eq_nil_iff.mpr fun pair hp => List.any_eq_false.mp none pair hp
    unfold Http.Headers.values
    have first := filter_field (sendable isValueChar r) "server"
    rw [lowered_server] at first
    rw [fields_ofScript, List.filter_append, List.map_append, first, own, serverField, none]
    rfl
  names := names_ofScript r

/-- A response with a header whose value is beyond ASCII. -/
def accented : Script.Response :=
  { status := 200, headers := Bytes.ofText "X-A: é", body := [] }

/-- **A value beyond ASCII is sent as it is.** -/
theorem accented_carried :
    (ofScript accented).headers.values "x-a" = [[0xC3, 0xA9]] ∧
      ¬ ∀ r : Script.Response, Carried Http.isVisible r := by
  have sent : (ofScript accented).headers.values "x-a" = [[0xC3, 0xA9]] := by
    decide +kernel
  refine ⟨sent, fun claim => ?_⟩
  have dropped := (claim accented).values "x-a" (.inl (by decide +kernel))
  have name : lowered "x-a" = "x-a" := by decide +kernel
  have nothing : sendable Http.isVisible accented = [] := by decide +kernel
  rw [name, sent, nothing] at dropped
  cases dropped

end ScriptGateway.Reply
