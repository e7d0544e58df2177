import ScriptGateway.Proofs.Script.Headers
/-!
# Header blocks that are written

What is read from a block, however malformed its bytes are, are names and values that can be
written again: one line each, the name before the first colon. Such a list is read back as it was
written, and two blocks that are joined are read as if each stood alone.

* `IsHeader`: a name and a value that fit in a line; `isHeader_of_mem_pairs`: all that is read.
* `write`: a list of them as a block; `pairs_write`: what is read from it.
* `pairsOfBytes_append`: two blocks with a line end between them.
* `written_read`: reading as the inverse of writing.
-/

namespace ScriptGateway.Script.HeaderBlock

/-! ## 1. Names and values in a line -/

/-- **A name and a value that fit in a line** and have nothing to trim. -/
structure IsHeader (header : String × String) : Prop where
  named : header.1 ≠ ""
  name : Text.trim header.1 = header.1
  noColon : ':' ∉ header.1.toList
  nameLine : '\n' ∉ header.1.toList
  value : Text.trim header.2 = header.2
  valueLine : '\n' ∉ header.2.toList

instance : DecidablePred IsHeader := fun header =>
  decidable_of_iff
    (header.1 ≠ "" ∧ Text.trim header.1 = header.1 ∧ ':' ∉ header.1.toList ∧
      '\n' ∉ header.1.toList ∧ Text.trim header.2 = header.2 ∧ '\n' ∉ header.2.toList)
    ⟨fun ⟨h₁, h₂, h₃, h₄, h₅, h₆⟩ => ⟨h₁, h₂, h₃, h₄, h₅, h₆⟩,
      fun ⟨h₁, h₂, h₃, h₄, h₅, h₆⟩ => ⟨h₁, h₂, h₃, h₄, h₅, h₆⟩⟩

theorem trim_ofList_trimChars (s : List Char) :
    Text.trim (String.ofList (Text.trimChars s)) = String.ofList (Text.trimChars s) := by
  rw [Text.trim, String.toList_ofList]
  exact congrArg String.ofList (Text.trimBoth_trimBoth Text.isBlank s)

theorem not_mem_toList_trimChars {c : Char} {s : List Char} (h : c ∉ s) :
    c ∉ (String.ofList (Text.trimChars s)).toList := by
  rw [String.toList_ofList]
  exact fun hm => h (Text.mem_of_mem_trimBoth hm)

theorem isHeader_of_pair? {line : List Char} {header : String × String} (hl : '\n' ∉ line)
    (h : pair? line = some header) : IsHeader header := by
  rw [pair?_eq] at h
  cases hs : Text.splitOnce ':' line with
  | none => simp [hs] at h
  | some cut =>
    obtain ⟨before, after⟩ := cut
    obtain ⟨colon, rfl⟩ := Text.splitOnce_eq_some_iff.mp hs
    have beforeLine : '\n' ∉ before := fun hm => hl (List.mem_append_left _ hm)
    have afterLine : '\n' ∉ after := fun hm =>
      hl (List.mem_append_right _ (List.mem_cons_of_mem _ hm))
    simp only [hs] at h
    split at h
    · cases h
    · next blank =>
      obtain rfl := Option.some.inj h
      have named : String.ofList (Text.trimChars before) ≠ "" := by
        intro empty
        apply blank
        rw [← String.toList_ofList (l := Text.trimChars before), empty]
        rfl
      exact ⟨named, trim_ofList_trimChars before,
        not_mem_toList_trimChars colon, not_mem_toList_trimChars beforeLine,
        trim_ofList_trimChars after, not_mem_toList_trimChars afterLine⟩

/-- **All that is read from a block fits in a line.** -/
theorem isHeader_of_mem_pairs {block : List Char} {header : String × String}
    (h : header ∈ pairs block) : IsHeader header := by
  obtain ⟨line, hl, hp⟩ := List.mem_filterMap.mp h
  exact isHeader_of_pair? (Text.not_mem_of_mem_splitOn hl) hp

/-! ## 2. Writing -/

/-- A name and a value as a line. -/
def writeLine (header : String × String) : List Char :=
  header.1.toList ++ ':' :: ' ' :: header.2.toList

/-- Names and values as a block, with a separator between the lines. -/
def write (sep : List Char) (headers : List (String × String)) : List Char :=
  sep.intercalate (headers.map writeLine)

theorem lineFeed_not_mem_writeLine {header : String × String} (h : IsHeader header) :
    '\n' ∉ writeLine header := by
  simp [writeLine, h.nameLine, h.valueLine]

theorem trimChars_toList {s : String} (h : Text.trim s = s) :
    Text.trimChars s.toList = s.toList := by
  conv => rhs; rw [← h, Text.trim, String.toList_ofList]

/-- **A line that is written is read back.** -/
theorem pair?_writeLine {header : String × String} (h : IsHeader header) :
    pair? (writeLine header) = some header := by
  obtain ⟨name, value⟩ := header
  have cut : Text.splitOnce ':' (writeLine (name, value)) =
      some (name.toList, ' ' :: value.toList) := by
    rw [Text.splitOnce_eq_some_iff]
    exact ⟨h.noColon, rfl⟩
  have before : Text.trimChars name.toList = name.toList := trimChars_toList h.name
  have after : Text.trimChars (' ' :: value.toList) = value.toList := trimChars_toList h.value
  have named : name.toList.isEmpty = false := by
    rw [← Bool.not_eq_true, List.isEmpty_iff, String.toList_eq_nil_iff]
    exact h.named
  rw [pair?_eq, cut]
  simp only [before, after, named, Bool.false_eq_true, if_false, String.ofList_toList]

/-- **A list that is written is read back**, whichever line ends part its lines. -/
theorem pairs_write {sep : List Char} (hs : Separates sep) {headers : List (String × String)}
    (h : ∀ header ∈ headers, IsHeader header) : pairs (write sep headers) = headers := by
  unfold write
  rw [pairs_intercalate hs, List.filterMap_map]
  · refine (List.filterMap_congr fun header hm => ?_).trans List.filterMap_some
    exact pair?_writeLine (h header hm)
  · intro line hm
    obtain ⟨header, hh, rfl⟩ := List.mem_map.mp hm
    exact lineFeed_not_mem_writeLine (h header hh)

/-! ## 3. Blocks that are joined -/

/-- **Two blocks with a line end between them are read each by itself**, whatever their bytes. -/
theorem pairsOfBytes_append (block rest : Bytes) :
    pairsOfBytes (block ++ Text.Utf8.encode lineEnd ++ rest) =
      pairsOfBytes block ++ pairsOfBytes rest := by
  have bytes : block ++ Text.Utf8.encode lineEnd ++ rest = block ++ 13 :: ([] ++ 10 :: rest) := by
    simp [Text.Utf8.encode, Text.Utf8.encodeChar, lineEnd]
  have decoded : Text.Utf8.decodeLossy (block ++ Text.Utf8.encode lineEnd ++ rest) =
      Text.Utf8.decodeLossy block ++ lineEnd ++ Text.Utf8.decodeLossy rest := by
    rw [bytes, Text.Utf8.decodeLossy_append_ascii _ (by decide),
      Text.Utf8.decodeLossy_append_ascii _ (by decide), List.append_assoc]
    rfl
  unfold pairsOfBytes
  rw [decoded, pairs_append_lineEnd]

/-- A header that is added leaves those before it as they were. -/
theorem headerPairs_addHeader_starts (c : Context) (line : String) :
    c.headerPairs <+: (c.addHeader line).headerPairs := by
  rw [Context.headerPairs_eq, Context.headerPairs_eq, Context.addHeader_eq]
  show pairs c.headers <+: pairs (addText c.headers line)
  rw [pairs_addText]
  unfold addPairs
  split
  · exact List.prefix_refl _
  · exact List.prefix_append _ _

/-! ## 4. Reading and writing -/

/-- **Reading is the inverse of writing.** What is read from any bytes can be written, a list that
can be written is read back from its lines with either line end between them, and joined blocks are
read one after another; so a header that is added changes nothing in how the others are read. -/
theorem written_read :
    (∀ (raw : Bytes), ∀ header ∈ pairsOfBytes raw, IsHeader header) ∧
    (∀ headers : List (String × String), (∀ header ∈ headers, IsHeader header) →
      ∀ sep ∈ [lineEnd, ['\n']],
        pairsOfBytes (Text.Utf8.encode (write sep headers)) = headers) ∧
    (∀ block rest : Bytes, pairsOfBytes (block ++ Text.Utf8.encode lineEnd ++ rest) =
      pairsOfBytes block ++ pairsOfBytes rest) ∧
    (∀ (c : Context) (line : String), c.headerPairs <+: (c.addHeader line).headerPairs) := by
  refine ⟨fun raw header => isHeader_of_mem_pairs, fun headers hh sep hs => ?_,
    pairsOfBytes_append, headerPairs_addHeader_starts⟩
  have separates : Separates sep := by
    rcases List.mem_pair.mp hs with rfl | rfl
    · exact separates_lineEnd
    · exact separates_lineFeed
  rw [pairsOfBytes_encode, pairs_write separates hh]

/-- A value with a carriage return and a colon inside, one that is empty, and a name twice. -/
def oddHeaders : List (String × String) :=
  [("X-A", "a\rb: c"), ("x a", ""), ("X-A", "é")]

theorem written_read_odd :
    (∀ header ∈ oddHeaders, IsHeader header) ∧
      pairsOfBytes (Text.Utf8.encode (write lineEnd oddHeaders)) = oddHeaders ∧
      pairsOfBytes (Text.Utf8.encode (write ['\n'] oddHeaders)) = oddHeaders := by
  have odd : ∀ header ∈ oddHeaders, IsHeader header := by
    decide +kernel
  obtain ⟨-, back, -⟩ := written_read
  exact ⟨odd, back oddHeaders odd lineEnd (by decide), back oddHeaders odd ['\n'] (by decide)⟩

end ScriptGateway.Script.HeaderBlock
