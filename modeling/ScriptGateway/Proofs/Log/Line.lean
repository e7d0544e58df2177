import Mathlib.Data.List.Induction
import ScriptGateway.Log.Entry
import ScriptGateway.Proofs.Json.RoundTrip
import ScriptGateway.Proofs.LastValue
import ScriptGateway.Proofs.Text.Utf8
/-!
# One event, one line

Whatever texts an event holds, its line is one line, and reading that line gives back what was
recorded: of each name the last value.

* `lastMessage?`, `lastData?`: what was recorded last, as the message and as data.
* `Collects`, `collects`: the parts of an entry are what was recorded last.
* `LineRead`, `line_read`: what is read from the line of an event.
-/

namespace ScriptGateway.Log

open Json (Value Exact Printable)

/-! ## 1. Fields sorted by name -/

/-- Fields in the order of their names, each name once. -/
def Sorted (data : List (String × Value)) : Prop :=
  data.Pairwise fun f g => f.1 < g.1

theorem lt_of_not_lt_of_ne {a b : String} (h : ¬ a < b) (hn : a ≠ b) : b < a :=
  Decidable.byContradiction fun h' =>
    hn (String.le_antisymm (String.not_lt.mp h') (String.not_lt.mp h))

theorem mem_putField {name : String} {v : Value} {data : List (String × Value)} (h : Sorted data)
    (f : String × Value) :
    f ∈ putField name v data ↔ f = (name, v) ∨ f.1 ≠ name ∧ f ∈ data := by
  induction data with
  | nil => simp [putField]
  | cons g data ih =>
    obtain ⟨other, w⟩ := g
    obtain ⟨above, rest⟩ := List.pairwise_cons.mp h
    unfold putField
    split
    · next less =>
      -- all that follows is above the name, so nothing is replaced
      have apart : f ∈ (other, w) :: data → f.1 ≠ name := fun hf e => by
        rcases List.mem_cons.mp hf with rfl | hf
        · exact String.lt_irrefl name (e ▸ less)
        · exact String.lt_irrefl name (String.lt_trans less (e ▸ above f hf))
      rw [List.mem_cons, and_iff_right_of_imp apart]
    · split
      · next same =>
        have apart : f ∈ data → f.1 ≠ name := fun hf e =>
          String.lt_irrefl name (by have := above f hf; rwa [e, ← same] at this)
        rw [List.mem_cons, List.mem_cons, and_or_left, and_iff_right_of_imp apart]
        constructor
        · exact fun hf => hf.imp_right .inr
        · rintro (hf | ⟨hn, rfl⟩ | hf)
          · exact .inl hf
          · exact (hn same.symm).elim
          · exact .inr hf
      · next different =>
        rw [List.mem_cons, ih rest, List.mem_cons, and_or_left]
        constructor
        · rintro (rfl | hf | hf)
          · exact .inr (.inl ⟨Ne.symm different, rfl⟩)
          · exact .inl hf
          · exact .inr (.inr hf)
        · rintro (hf | hf | hf)
          · exact .inr (.inl hf)
          · exact .inl hf.2
          · exact .inr (.inr hf)

theorem sorted_putField {name : String} {v : Value} {data : List (String × Value)}
    (h : Sorted data) : Sorted (putField name v data) := by
  induction data with
  | nil => exact List.pairwise_singleton _ _
  | cons g data ih =>
    obtain ⟨other, w⟩ := g
    obtain ⟨above, rest⟩ := List.pairwise_cons.mp h
    unfold putField
    split
    · next less =>
      refine List.pairwise_cons.mpr ⟨fun f hf => ?_, h⟩
      rcases List.mem_cons.mp hf with rfl | hf
      · exact less
      · exact String.lt_trans less (above f hf)
    · next notLess =>
      split
      · next same => exact List.pairwise_cons.mpr ⟨same ▸ above, rest⟩
      · next different =>
        refine List.pairwise_cons.mpr ⟨fun f hf => ?_, ih rest⟩
        rcases (mem_putField rest f).mp hf with rfl | ⟨-, hf⟩
        · exact lt_of_not_lt_of_ne notLess different
        · exact above f hf

theorem field?_object (data : List (String × Value)) (name : String) :
    (Value.object data).field? name = last? data name := by
  have found (l : List (String × Value)) :
      (l.find? fun f => f.1 == name).map (·.2) = l.lookup name := by
    induction l with
    | nil => rfl
    | cons f l ih =>
      rw [List.find?_cons, List.lookup_cons, BEq.comm]
      cases name == f.1 with
      | true => rfl
      | false => exact ih
  exact found data.reverse

/-- What is under a name in sorted fields. -/
theorem field?_eq_some_iff {data : List (String × Value)} (h : Sorted data) {name : String}
    {v : Value} : (Value.object data).field? name = some v ↔ (name, v) ∈ data := by
  have nodup : (data.map (·.1)).Nodup :=
    List.pairwise_map.mpr (h.imp fun {f g} less (e : f.1 = g.1) =>
      String.lt_irrefl g.1 (e ▸ less))
  rw [field?_object]
  exact ⟨mem_of_last?, last?_of_nodup nodup⟩

/-- **The value that was put is found under its name, and under any other name what was there.** -/
theorem field?_putField {data : List (String × Value)} (h : Sorted data) (name : String)
    (v : Value) (wanted : String) :
    (Value.object (putField name v data)).field? wanted =
      if name = wanted then some v else (Value.object data).field? wanted := by
  refine Option.ext fun w => ?_
  rw [field?_eq_some_iff (sorted_putField h), mem_putField h]
  split
  · next e =>
    rw [e]
    exact ⟨fun hw => hw.elim (fun hw => congrArg some (Prod.mk.inj hw).2.symm)
      fun hw => (hw.1 rfl).elim, fun hw => .inl (by rw [Option.some.inj hw])⟩
  · next e =>
    rw [field?_eq_some_iff h]
    exact ⟨fun hw => hw.elim (fun hw => (e (Prod.mk.inj hw).1.symm).elim) And.right,
      fun hw => .inr ⟨Ne.symm e, hw⟩⟩

/-! ## 2. What was recorded last -/

/-- The message that a recorded value gives. -/
def asMessage? (f : String × FieldValue) : Option String :=
  if f.1 = "message" then f.2.message? else none

/-- The message last recorded. -/
def lastMessage? (fields : List (String × FieldValue)) : Option String :=
  fields.reverse.findSome? asMessage?

/-- The value last recorded under a name and not as a message. -/
def lastData? (fields : List (String × FieldValue)) (name : String) : Option FieldValue :=
  last? (fields.filter fun f => (asMessage? f).isNone) name

section Concat

variable (fields : List (String × FieldValue)) (f : String × FieldValue) (name : String)

theorem lastMessage?_concat :
    lastMessage? (fields ++ [f]) = (asMessage? f).or (lastMessage? fields) := by
  rw [lastMessage?, List.reverse_append, List.reverse_singleton, List.singleton_append,
    List.findSome?_cons, lastMessage?]
  cases asMessage? f <;> rfl

theorem lastData?_concat : lastData? (fields ++ [f]) name =
    if asMessage? f = none ∧ f.1 = name then some f.2 else lastData? fields name := by
  unfold lastData?
  rw [List.filter_append]
  cases hm : asMessage? f with
  | some message => simp [hm]
  | none =>
    have kept : [f].filter (fun f => (asMessage? f).isNone) = [f] := by simp [hm]
    rw [kept, last?_concat]
    simp

end Concat

/-- Only what was recorded under `message` can be a message. -/
theorem lastData?_of_ne (fields : List (String × FieldValue)) {name : String}
    (h : name ≠ "message") : lastData? fields name = last? fields name := by
  induction fields using List.reverseRecOn with
  | nil => rfl
  | append_singleton fields f ih =>
    rw [lastData?_concat, last?_concat, ih]
    split
    · next both => rw [if_pos both.2]
    · next other =>
      refine (if_neg fun e => other ⟨?_, e⟩).symm
      exact if_neg (e ▸ h)

/-- The parts of an entry, as they were recorded last. -/
structure Collects (fields : List (String × FieldValue)) (c : Collected) : Prop where
  sorted : Sorted c.data
  data : ∀ name,
    (Value.object c.data).field? name = (lastData? fields name).map FieldValue.toJson
  message : c.message = lastMessage? fields

theorem record_of_message {name message : String} {v : FieldValue}
    (h : asMessage? (name, v) = some message) (c : Collected) :
    c.record name v = { c with message := some message } := by
  change (if name = "message" then v.message? else none) = some message at h
  rw [Collected.record, h]

theorem record_of_data {name : String} {v : FieldValue} (h : asMessage? (name, v) = none)
    (c : Collected) : c.record name v = { c with data := putField name v.toJson c.data } := by
  change (if name = "message" then v.message? else none) = none at h
  rw [Collected.record, h]

/-- One more value is recorded: as the message, or else as data. -/
theorem Collects.record {fields : List (String × FieldValue)} {c : Collected}
    (h : Collects fields c) (name : String) (v : FieldValue) :
    Collects (fields ++ [(name, v)]) (c.record name v) := by
  cases hm : asMessage? (name, v) with
  | some message =>
    rw [record_of_message hm]
    refine ⟨h.sorted, fun wanted => ?_, ?_⟩
    · rw [lastData?_concat, hm, if_neg (fun both => nomatch both.1)]
      exact h.data wanted
    · rw [lastMessage?_concat, hm, Option.some_or]
  | none =>
    rw [record_of_data hm]
    refine ⟨sorted_putField h.sorted, fun wanted => ?_, ?_⟩
    · rw [field?_putField h.sorted, lastData?_concat, hm, h.data]
      by_cases same : name = wanted
      · rw [if_pos same, if_pos ⟨rfl, same⟩, Option.map_some]
      · rw [if_neg same, if_neg fun both => same both.2]
    · rw [lastMessage?_concat, hm, Option.none_or]
      exact h.message

theorem collects (fields : List (String × FieldValue)) : Collects fields (collect fields) := by
  induction fields using List.reverseRecOn with
  | nil => exact ⟨.nil, fun _ => rfl, rfl⟩
  | append_singleton fields f ih =>
    unfold collect at ih ⊢
    rw [List.foldl_append]
    exact ih.record f.1 f.2

theorem mem_of_lastData? {fields : List (String × FieldValue)} {name : String} {v : FieldValue}
    (h : lastData? fields name = some v) : (name, v) ∈ fields :=
  (List.mem_filter.mp (mem_of_last? h)).1

/-! ## 3. Access records -/

/-- The text of a recorded value, if it is one. -/
def FieldValue.asText? : FieldValue → Option String
  | .text s => some s
  | .shown s => some s
  | _ => none

/-- The number of a recorded value, if it is whole and not negative. -/
def FieldValue.asCount? : FieldValue → Option Nat
  | .int n => if 0 ≤ n then some n.toNat else none
  | _ => none

/-- `METHOD PATH STATUS` of what was recorded last. -/
def accessLine (fields : List (String × FieldValue)) : String :=
  ((last? fields "method").bind FieldValue.asText?).getD "?" ++ " " ++
    ((last? fields "path").bind FieldValue.asText?).getD "?" ++ " " ++
    toString (((last? fields "status").bind FieldValue.asCount?).getD 0)

theorem asText?_toJson (v : FieldValue) : v.toJson.asText? = v.asText? := by
  cases v with
  | float x =>
    show (if x.isFinite then Value.float x else .null).asText? = none
    split <;> rfl
  | _ => rfl

theorem asNat?_toJson (v : FieldValue) : v.toJson.asNat? = v.asCount? := by
  cases v with
  | int n => cases n <;> rfl
  | float x =>
    show (if x.isFinite then Value.float x else .null).asNat? = none
    split <;> rfl
  | _ => rfl

theorem Collects.named {fields : List (String × FieldValue)} {c : Collected}
    (h : Collects fields c) {name : String} (hn : name ≠ "message") :
    (Value.object c.data).field? name = (last? fields name).map FieldValue.toJson := by
  rw [h.data, lastData?_of_ne fields hn]

theorem Collects.accessMessage_eq {fields : List (String × FieldValue)} {c : Collected}
    (h : Collects fields c) : accessMessage c.data = accessLine fields := by
  have bindText (o : Option FieldValue) :
      (o.map FieldValue.toJson).bind Value.asText? = o.bind FieldValue.asText? := by
    cases o with
    | none => rfl
    | some v => exact asText?_toJson v
  have bindCount (o : Option FieldValue) :
      (o.map FieldValue.toJson).bind Value.asNat? = o.bind FieldValue.asCount? := by
    cases o with
    | none => rfl
    | some v => exact asNat?_toJson v
  simp only [accessMessage, accessLine, ← bindText, ← bindCount,
    h.named (show "method" ≠ "message" by decide), h.named (show "path" ≠ "message" by decide),
    h.named (show "status" ≠ "message" by decide)]

/-! ## 4. The line of an event -/

/-- The message of an event: an access record's own, or the one recorded last. -/
def messageOf (e : Event) : String :=
  if e.target = accessTarget then accessLine e.fields else (lastMessage? e.fields).getD ""

theorem kindOf_eq_access_iff {target : String} {level : Level} :
    kindOf target level = .access ↔ target = accessTarget := by
  unfold kindOf
  split
  · next e => exact iff_of_true rfl e
  · next e =>
    refine iff_of_false ?_ e
    split
    · exact nofun
    · split <;> exact nofun

theorem message_ofEvent (service : String) (e : Event) :
    (Entry.ofEvent service e).message = messageOf e := by
  show (if kindOf e.target e.level = .access then accessMessage _ else _) = messageOf e
  rw [(collects e.fields).accessMessage_eq, (collects e.fields).message, messageOf]
  exact if_congr kindOf_eq_access_iff rfl rfl

theorem exact_toJson {v : FieldValue} (h : ∀ x, v ≠ .float x) : Exact v.toJson := by
  cases v with
  | text s => exact .text s
  | shown s => exact .text s
  | int n => exact .int n
  | float x => exact (h x rfl).elim
  | bool b => exact .bool b

/-- **What is read from the line of an event**, with `data` for what was recorded beside its
message. -/
structure LineRead (service time : String) (e : Event) (data : List (String × Value)) : Prop where
  /-- It is one line. -/
  bytes : ∃ text, Bytes.ofText (line service time e) = text ++ [10] ∧ ∀ b ∈ text, 0x20 ≤ b
  /-- It is one object. -/
  object : Json.read (line service time e).toList = some (.object [
    ("ctx", .object [("service", .text service)]),
    ("data", .object data),
    ("level", .text e.level.name),
    ("msg", .text (messageOf e)),
    ("ts", .text time),
    ("type", .text (kindOf e.target e.level).name)])
  /-- Each name once. -/
  sorted : Sorted data
  /-- Under each name is the value recorded last. -/
  named : ∀ name, name ≠ "message" →
    (Value.object data).field? name = (last? e.fields name).map FieldValue.toJson
  /-- Under that of the message, the last value that is none. -/
  unsaid : (Value.object data).field? "message" =
    (lastData? e.fields "message").map FieldValue.toJson

theorem exact_toJson_ofEvent (service time : String) (e : Event)
    (h : ∀ f ∈ e.fields, ∀ x, f.2 ≠ .float x) :
    Exact ((Entry.ofEvent service e).toJson time) := by
  have parts := collects e.fields
  have data : ∀ f ∈ (collect e.fields).data, Exact f.2 := fun f hf => by
    have found := (field?_eq_some_iff parts.sorted).mpr hf
    rw [parts.data] at found
    obtain ⟨v, hv, hj⟩ := Option.map_eq_some_iff.mp found
    rw [← hj]
    exact exact_toJson (h _ (mem_of_lastData? hv))
  refine .object fun f hf => ?_
  simp only [List.mem_cons, List.not_mem_nil, or_false] at hf
  rcases hf with rfl | rfl | rfl | rfl | rfl | rfl
  · exact .object fun f hf => by rw [List.mem_singleton.mp hf]; exact .text _
  · exact .object data
  all_goals exact .text _

/-- **The line of an event is one line, and all of the event is read from it.** -/
theorem line_read (service time : String) (e : Event)
    (h : ∀ f ∈ e.fields, ∀ x, f.2 ≠ .float x) : ∃ data, LineRead service time e data := by
  have json := exact_toJson_ofEvent service time e h
  have parts := collects e.fields
  refine ⟨(collect e.fields).data, ⟨?_, ?_, parts.sorted, fun name => parts.named,
    parts.data "message"⟩⟩
  · refine ⟨Text.Utf8.encode (Json.write ((Entry.ofEvent service e).toJson time)), ?_,
      fun b hb => ?_⟩
    · rw [line, Entry.line, Bytes.ofText, String.toList_ofList]
      exact List.flatMap_append
    · exact UInt8.le_iff_toNat_le.mpr
        (Text.Utf8.le_of_mem_encode (by decide) (Json.printable_write json) b hb)
  · have lineEnd : ∀ c ∈ ['\n'], Json.isSpace c = true := List.forall_mem_singleton.mpr rfl
    rw [line, Entry.line, String.toList_ofList, Json.read_write json lineEnd, Entry.toJson,
      message_ofEvent]
    rfl

/-- An access record whose path is made to look like a line of its own. -/
def forgedRecord : Event :=
  { target := accessTarget
    level := .info
    fields := [("method", .bool true), ("path", .text "/"), ("status", .int (-1)),
      ("path", .text "/\n\x7b\"level\":\"error\"\x7d"), ("client", .shown "Some(\"\u0000é\")")] }

/-- The record is still one line, and the path is read from it as it came. -/
theorem line_read_forged : ∃ data,
    (∃ text, Bytes.ofText (line "gateway" "now" forgedRecord) = text ++ [10] ∧
      ∀ b ∈ text, 0x20 ≤ b) ∧
    Json.read (line "gateway" "now" forgedRecord).toList = some (.object [
      ("ctx", .object [("service", .text "gateway")]),
      ("data", .object data),
      ("level", .text "info"),
      ("msg", .text "? /\n\x7b\"level\":\"error\"\x7d 0"),
      ("ts", .text "now"),
      ("type", .text "access")]) ∧
    (Value.object data).field? "path" = some (.text "/\n\x7b\"level\":\"error\"\x7d") ∧
    (Value.object data).field? "client" = some (.text "Some(\"\u0000é\")") := by
  have unforged : ∀ f ∈ forgedRecord.fields, ∀ x, f.2 ≠ .float x := by
    simp [forgedRecord]
  obtain ⟨data, read⟩ := line_read "gateway" "now" forgedRecord unforged
  exact ⟨data, read.bytes, read.object, read.named "path" (by decide),
    read.named "client" (by decide)⟩

end ScriptGateway.Log
