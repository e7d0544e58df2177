import ScriptGateway.Proofs.Script.Trace
import ScriptGateway.Proofs.Text.Split
import ScriptGateway.Proofs.Text.Utf8
/-!
# The header block as a list of pairs

A header block is a text that is cut into lines for each removal and joined again, while its
readers cut it another way. Seen as the list of its names and values it is edited as one would
edit a list.

* `readings`: what each line of a block holds; `Separates`: what may stand between lines.
* `pairs_addLine`, `pairs_removeNamed`: the two edits of the block, read as pairs.
* `addPairs`, `removePairs`, `replacePairs`, `Operation.editPairs`: the edits of a list of pairs.
* `Session.headers_performAll`: what the operations of a script make of the pairs.
* `headers_refine`: the same from an empty block, and what replacing a header leaves.
-/

namespace ScriptGateway.Script

namespace HeaderBlock

/-! ## 1. One line -/

/-- White space at the end of a line makes no difference to the pair it holds. -/
theorem pair?_eq (line : List Char) :
    pair? line = match Text.splitOnce ':' line with
      | none => none
      | some (before, after) =>
        if (Text.trimChars before).isEmpty then none
        else
          some (String.ofList (Text.trimChars before), String.ofList (Text.trimChars after)) := by
  obtain ⟨returns, hline, hr⟩ := Text.exists_append_dropEndWhile (· == '\r') line
  have blank : ∀ c ∈ returns, Text.isBlank c = true := by
    intro c hc
    rw [beq_iff_eq.mp (hr c hc)]
    rfl
  have colon : ':' ∉ returns := by
    intro hc
    have : ':' = '\r' := beq_iff_eq.mp (hr ':' hc)
    simp at this
  unfold pair?
  generalize Text.dropEndWhile (· == '\r') line = core at hline ⊢
  subst hline
  cases hs : Text.splitOnce ':' core with
  | none =>
    have hc := Text.splitOnce_eq_none_iff.mp hs
    have none : Text.splitOnce ':' (core ++ returns) = none := by
      rw [Text.splitOnce_eq_none_iff, List.mem_append]
      exact fun h => h.elim hc colon
    rw [none]
  | some cut =>
    obtain ⟨before, after⟩ := cut
    obtain ⟨hb, rfl⟩ := Text.splitOnce_eq_some_iff.mp hs
    have some : Text.splitOnce ':' (before ++ ':' :: after ++ returns) =
        some (before, after ++ returns) := by
      rw [Text.splitOnce_eq_some_iff]
      exact ⟨hb, by simp⟩
    simp only [some, Text.trimChars_append blank]

theorem pair?_append_return (line : List Char) : pair? (line ++ ['\r']) = pair? line := by
  unfold pair?
  rw [Text.dropEndWhile_append_of_all]
  simp

theorem pair?_dropOneEnd (line : List Char) : pair? (Text.dropOneEnd '\r' line) = pair? line := by
  rcases Text.dropOneEnd_cases '\r' line with h | h
  · rw [h]
  · rw [← pair?_append_return, ← h]

/-- A line that holds a pair has the names that the pair has. -/
theorem isNamed_of_pair? {line : List Char} {pair : String × String} (name : List Char)
    (h : pair? line = some pair) :
    isNamed name line = Text.sameIgnoringCase pair.1 (String.ofList (Text.trimChars name)) := by
  rw [pair?_eq] at h
  unfold isNamed
  cases hs : Text.splitOnce ':' line with
  | none => simp [hs] at h
  | some cut =>
    obtain ⟨before, after⟩ := cut
    simp only [hs] at h
    split at h
    · simp at h
    · obtain rfl := Option.some.inj h
      simp [Text.sameIgnoringCase]

/-! ## 2. Blocks -/

/-- What each line of a block holds. -/
def readings (block : List Char) : List (Option (String × String)) :=
  (lines block).map pair?

/-- The pairs of a block are what its lines hold. -/
theorem pairs_eq (block : List Char) : pairs block = (readings block).filterMap id := by
  unfold readings
  rw [List.filterMap_map]
  rfl

/-- What the lines hold that are cut by a line feed. -/
theorem readings_append_lineFeed (block rest : List Char) :
    readings (block ++ '\n' :: rest) = readings block ++ readings rest := by
  unfold readings lines
  rw [List.splitOn_append_cons_self, List.map_append]

theorem readings_of_line {line : List Char} (h : '\n' ∉ line) : readings line = [pair? line] := by
  unfold readings lines
  rw [List.splitOn_eq_singleton h, List.map_singleton]

/-- A carriage return at the end of a block stands at the end of its last line. -/
theorem readings_append_return (block : List Char) :
    readings (block ++ ['\r']) = readings block := by
  by_cases h : '\n' ∈ block
  · obtain ⟨before, rest, rfl, -⟩ := List.eq_append_cons_of_mem h
    rw [List.append_assoc, List.cons_append, readings_append_lineFeed, readings_append_lineFeed,
      readings_append_return rest]
  · rw [readings_of_line h, readings_of_line (by simp [h]), pair?_append_return]
termination_by block.length

/-- What may stand between lines: the lines before it and after it are read one by one. -/
def Separates (sep : List Char) : Prop :=
  ∀ block rest : List Char, readings (block ++ sep ++ rest) = readings block ++ readings rest

theorem separates_lineFeed : Separates ['\n'] := by
  intro block rest
  rw [List.append_assoc]
  exact readings_append_lineFeed block rest

theorem separates_lineEnd : Separates lineEnd := by
  intro block rest
  have h : block ++ lineEnd ++ rest = (block ++ ['\r']) ++ '\n' :: rest := by simp [lineEnd]
  rw [h, readings_append_lineFeed, readings_append_return]

@[simp] theorem pairs_nil : pairs [] = [] := rfl

theorem pairs_append_lineFeed (block rest : List Char) :
    pairs (block ++ '\n' :: rest) = pairs block ++ pairs rest := by
  simp only [pairs_eq, readings_append_lineFeed, List.filterMap_append]

theorem pairs_of_line {line : List Char} (h : '\n' ∉ line) :
    pairs line = (pair? line).toList := by
  rw [pairs_eq, readings_of_line h]
  cases hp : pair? line <;> rfl

theorem pairs_append_return (block : List Char) : pairs (block ++ ['\r']) = pairs block := by
  simp only [pairs_eq, readings_append_return]

theorem pairs_append_lineEnd (block rest : List Char) :
    pairs (block ++ lineEnd ++ rest) = pairs block ++ pairs rest := by
  simp only [pairs_eq, separates_lineEnd block rest, List.filterMap_append]

/-- **A text added at the end brings its own pairs.** -/
theorem pairs_addLine (block line : List Char) :
    pairs (addLine block line) = pairs block ++ pairs line := by
  unfold addLine
  split
  · next h => rw [List.isEmpty_iff.mp h, pairs_nil, List.nil_append]
  · exact pairs_append_lineEnd block line

/-- Line ends at the end of a text make no difference to its pairs. -/
theorem pairs_append_of_lineEnds {t : List Char} (s : List Char)
    (h : ∀ c ∈ t, c = '\r' ∨ c = '\n') : pairs (s ++ t) = pairs s := by
  induction t generalizing s with
  | nil => rw [List.append_nil]
  | cons c t ih =>
    have ht : ∀ c ∈ t, c = '\r' ∨ c = '\n' := fun c hc => h c (List.mem_cons_of_mem _ hc)
    rw [List.append_cons, ih _ ht]
    rcases h c List.mem_cons_self with rfl | rfl
    · exact pairs_append_return s
    · rw [pairs_append_lineFeed, pairs_nil, List.append_nil]

/-- Lines that are joined are read one by one. -/
theorem readings_intercalate {sep : List Char} (hs : Separates sep) {ls : List (List Char)}
    (hn : ls ≠ []) (h : ∀ line ∈ ls, '\n' ∉ line) :
    readings (sep.intercalate ls) = ls.map pair? := by
  induction ls with
  | nil => exact absurd rfl hn
  | cons line ls ih =>
    have hl := h line List.mem_cons_self
    cases ls with
    | nil =>
      rw [List.intercalate_singleton, readings_of_line hl]
      rfl
    | cons next ls =>
      rw [List.intercalate_cons_cons, hs, readings_of_line hl,
        ih (List.cons_ne_nil _ _) fun line hm => h line (List.mem_cons_of_mem _ hm)]
      rfl

theorem pairs_intercalate {sep : List Char} (hs : Separates sep) {ls : List (List Char)}
    (h : ∀ line ∈ ls, '\n' ∉ line) : pairs (sep.intercalate ls) = ls.filterMap pair? := by
  cases ls with
  | nil => rfl
  | cons line ls =>
    rw [pairs_eq, readings_intercalate hs (List.cons_ne_nil _ _) h, List.filterMap_map]
    rfl

/-- The pairs that are left of lines, some of which were taken out by their name. -/
theorem filterMap_unnamed (name : List Char) (ls : List (List Char)) :
    (ls.filter fun line => !isNamed name line).filterMap pair? =
      (ls.filterMap pair?).filter fun pair =>
        !Text.sameIgnoringCase pair.1 (String.ofList (Text.trimChars name)) := by
  induction ls with
  | nil => rfl
  | cons line ls ih =>
    cases hp : pair? line with
    | none =>
      rw [List.filterMap_cons_none hp, ← ih]
      cases hn : isNamed name line <;> simp [hn, hp]
    | some pair =>
      have hn := isNamed_of_pair? name hp
      rw [List.filterMap_cons_some hp]
      simp only [List.filter_cons, ← hn, ← ih]
      cases isNamed name line <;> simp [hp]

/-- A line has no line feed, with or without the carriage return at its end. -/
theorem lineFeed_not_mem {block line : List Char}
    (h : line ∈ (lines block).map (Text.dropOneEnd '\r')) : '\n' ∉ line := by
  obtain ⟨whole, hw, rfl⟩ := List.mem_map.mp h
  intro hc
  refine Text.not_mem_of_mem_splitOn hw ?_
  rcases Text.dropOneEnd_cases '\r' whole with h | h
  · rwa [h] at hc
  · rw [h]
    exact List.mem_append_left _ hc

/-- **Removing a name takes the pairs of that name out**, in any case, and no others. -/
theorem pairs_removeNamed (name block : List Char) :
    pairs (removeNamed name block) = (pairs block).filter fun pair =>
      !Text.sameIgnoringCase pair.1 (String.ofList (Text.trimChars name)) := by
  unfold removeNamed
  split
  · next h => rw [List.isEmpty_iff.mp h]; rfl
  · rw [pairs_intercalate separates_lineEnd, filterMap_unnamed, List.filterMap_map]
    · congr 2
      exact funext pair?_dropOneEnd
    · intro line hm
      exact lineFeed_not_mem (List.mem_filter.mp hm).1

/-- Bytes that were written are read as what was written. -/
theorem pairsOfBytes_encode (block : List Char) :
    pairsOfBytes (Text.Utf8.encode block) = pairs block := by
  unfold pairsOfBytes
  rw [Text.Utf8.decodeLossy_encode]

end HeaderBlock

/-! ## 3. Header lines -/

theorem lineEnds_of_all {t : List Char} (h : ∀ c ∈ t, (c == '\r' || c == '\n') = true) :
    ∀ c ∈ t, c = '\r' ∨ c = '\n' := by
  intro c hc
  simpa using h c hc

theorem pairs_trimLine (line : String) :
    HeaderBlock.pairs (trimLine line) = HeaderBlock.pairs line.toList := by
  obtain ⟨ends, hline, he⟩ :=
    Text.exists_append_dropEndWhile (fun ch => ch == '\r' || ch == '\n') line.toList
  conv => rhs; rw [hline]
  exact (HeaderBlock.pairs_append_of_lineEnds _ (lineEnds_of_all he)).symm

/-- What sets the status stands at the front of a line, and no line end stands there. -/
theorem isStatusLine_trimLine (line : String) :
    HeaderBlock.isStatusLine (trimLine line) = HeaderBlock.isStatusLine line.toList := by
  obtain ⟨ends, hline, -⟩ :=
    Text.exists_append_dropEndWhile (fun ch => ch == '\r' || ch == '\n') line.toList
  rw [Bool.eq_iff_iff]
  unfold HeaderBlock.isStatusLine trimLine
  rw [List.isPrefixOf_iff_prefix, List.isPrefixOf_iff_prefix]
  constructor
  · intro h
    rw [hline]
    exact h.trans (List.prefix_append _ _)
  · rintro ⟨rest, hrest⟩
    rw [← hrest, Text.dropEndWhile_append]
    split
    · exact ⟨[], rfl⟩
    · exact List.prefix_append _ _

/-! ## 4. The edits of a list of pairs -/

/-- The pairs with those of a text added at the end. A status line brings none. -/
def addPairs (pairs : List (String × String)) (line : String) : List (String × String) :=
  if HeaderBlock.isStatusLine line.toList then pairs
  else pairs ++ HeaderBlock.pairs line.toList

/-- The pairs without those of a name, in any case. -/
def removePairs (name : String) (pairs : List (String × String)) : List (String × String) :=
  pairs.filter fun pair => !Text.sameIgnoringCase pair.1 (Text.trim name)

/-- The pairs with those of a text in place of those of its name. -/
def replacePairs (pairs : List (String × String)) (line : String) : List (String × String) :=
  match Text.splitOnce ':' line.toList with
  | some (name, _) =>
    if HeaderBlock.isStatusLine line.toList then addPairs pairs line
    else addPairs (removePairs (String.ofList name) pairs) line
  | none => addPairs pairs line

/-- What an operation does to the pairs. -/
def Operation.editPairs (pairs : List (String × String)) : Operation → List (String × String)
  | addHeader line => addPairs pairs line
  | replaceHeader line => replacePairs pairs line
  | removeHeader name => removePairs name pairs
  | clearHeaders => []
  | _ => pairs

theorem pairs_addText (block : List Char) (line : String) :
    HeaderBlock.pairs (addText block line) = addPairs (HeaderBlock.pairs block) line := by
  unfold addText addPairs
  rw [isStatusLine_trimLine]
  cases hs : HeaderBlock.isStatusLine line.toList with
  | true => simp
  | false =>
    cases he : (trimLine line).isEmpty with
    | true =>
      have none : HeaderBlock.pairs line.toList = [] := by
        rw [← pairs_trimLine, List.isEmpty_iff.mp he, HeaderBlock.pairs_nil]
      simp [none]
    | false => simp [HeaderBlock.pairs_addLine, pairs_trimLine]

theorem pairs_removeNamed_toList (name : String) (block : List Char) :
    HeaderBlock.pairs (HeaderBlock.removeNamed name.toList block) =
      removePairs name (HeaderBlock.pairs block) :=
  HeaderBlock.pairs_removeNamed name.toList block

theorem pairs_replaceText (block : List Char) (line : String) :
    HeaderBlock.pairs (replaceText block line) = replacePairs (HeaderBlock.pairs block) line := by
  unfold replaceText replacePairs
  cases Text.splitOnce ':' line.toList with
  | none => exact pairs_addText block line
  | some cut =>
    obtain ⟨name, value⟩ := cut
    cases HeaderBlock.isStatusLine line.toList with
    | true => exact pairs_addText block line
    | false =>
      have removed := pairs_removeNamed_toList (String.ofList name) block
      rw [String.toList_ofList] at removed
      simp only [Bool.false_eq_true, if_false]
      rw [pairs_addText, removed]

/-- **What one operation does to the pairs of a block.** -/
theorem Operation.pairs_edit (op : Operation) (block : List Char) :
    HeaderBlock.pairs (op.edit block) = op.editPairs (HeaderBlock.pairs block) := by
  cases op with
  | addHeader line => exact pairs_addText block line
  | replaceHeader line => exact pairs_replaceText block line
  | removeHeader name => exact pairs_removeNamed_toList name block
  | _ => rfl

/-! ## 5. The headers of a session -/

/-- The names and values in the header block of a context. -/
def Context.headerPairs (c : Context) : List (String × String) :=
  HeaderBlock.pairsOfBytes c.headerBytes

theorem Context.headerPairs_eq (c : Context) : c.headerPairs = HeaderBlock.pairs c.headers :=
  HeaderBlock.pairsOfBytes_encode c.headers

/-- The pairs of a response whose script left no header. -/
theorem headerPairs_response_empty {c : Context} (h : c.headers = []) :
    c.response.headerPairs = HeaderBlock.pairs HeaderBlock.default := by
  unfold Response.headerPairs Context.response
  rw [h]
  exact HeaderBlock.pairsOfBytes_encode HeaderBlock.default

theorem headerPairs_response {c : Context} (h : c.headers ≠ []) :
    c.response.headerPairs = c.headerPairs := by
  have left : c.headers.isEmpty = false := by simpa using h
  unfold Response.headerPairs Context.response
  rw [left]
  rfl

variable {σ : Type}

/-- The session after operations, one after another. -/
def Session.performAll (h : Host σ) (ops : List Operation) (s : Session σ) : Session σ :=
  ops.foldl (fun s op => (perform h op s).2) s

theorem Session.headers_perform (h : Host σ) (op : Operation) (s : Session σ) :
    (perform h op s).2.context.headerPairs = op.editPairs s.context.headerPairs := by
  rw [Context.headerPairs_eq, (s.did_perform h op).headers, op.pairs_edit, Context.headerPairs_eq]

/-- **The pairs after operations are the pairs before them, edited one by one.** -/
theorem Session.headers_performAll (h : Host σ) (ops : List Operation) (s : Session σ) :
    (s.performAll h ops).context.headerPairs =
      ops.foldl Operation.editPairs s.context.headerPairs := by
  induction ops generalizing s with
  | nil => rfl
  | cons op ops ih =>
    show (Session.performAll h ops (perform h op s).2).context.headerPairs = _
    rw [ih, s.headers_perform, List.foldl_cons]

/-- A line with a name leaves one pair of that name, at the end. -/
theorem replacePairs_named {name value : String} (hc : ':' ∉ name.toList)
    (hn : '\n' ∉ name.toList) (hv : '\n' ∉ value.toList) (hb : Text.trim name ≠ "")
    (hs : HeaderBlock.isStatusLine (name ++ ":" ++ value).toList = false)
    (pairs : List (String × String)) :
    replacePairs pairs (name ++ ":" ++ value) =
      removePairs name pairs ++ [(Text.trim name, Text.trim value)] := by
  have whole : (name ++ ":" ++ value).toList = name.toList ++ ':' :: value.toList := by
    simp
  have cut : Text.splitOnce ':' (name ++ ":" ++ value).toList =
      some (name.toList, value.toList) := by
    rw [Text.splitOnce_eq_some_iff]
    exact ⟨hc, whole⟩
  have oneLine : '\n' ∉ (name ++ ":" ++ value).toList := by
    simp [hn, hv]
  have named : (Text.trimChars name.toList).isEmpty = false := by
    rw [← Bool.not_eq_true, List.isEmpty_iff]
    intro blank
    exact hb (by rw [Text.trim, blank])
  have brings : HeaderBlock.pairs (name ++ ":" ++ value).toList =
      [(Text.trim name, Text.trim value)] := by
    rw [HeaderBlock.pairs_of_line oneLine, HeaderBlock.pair?_eq, cut]
    simp only [named, Bool.false_eq_true, if_false]
    rfl
  unfold replacePairs addPairs
  simp only [cut, hs, Bool.false_eq_true, if_false, brings, String.ofList_toList]

theorem removePairs_other {name : String} {pairs : List (String × String)}
    {pair : String × String} (h : pair ∈ removePairs name pairs) :
    Text.sameIgnoringCase pair.1 (Text.trim name) = false := by
  simpa using (List.mem_filter.mp h).2

/-- **A header block is edited like the list of its pairs**: from the empty list in a context of
which an execution begins afresh. A line with a name leaves one pair of that name, and it is the
last. -/
theorem headers_refine (h : Host σ) (ops : List Operation) (s : Session σ) :
    (s.performAll h ops).context.headerPairs =
        ops.foldl Operation.editPairs s.context.headerPairs ∧
      s.context.resetOutput.headerPairs = [] ∧
      ∀ name value : String, ':' ∉ name.toList → '\n' ∉ name.toList → '\n' ∉ value.toList →
        Text.trim name ≠ "" →
        HeaderBlock.isStatusLine (name ++ ":" ++ value).toList = false →
          (Session.perform h (.replaceHeader (name ++ ":" ++ value))
              (s.performAll h ops)).2.context.headerPairs =
            removePairs name (s.performAll h ops).context.headerPairs
              ++ [(Text.trim name, Text.trim value)] ∧
          ∀ pair ∈ removePairs name (s.performAll h ops).context.headerPairs,
            Text.sameIgnoringCase pair.1 (Text.trim name) = false := by
  refine ⟨s.headers_performAll h ops, rfl, fun name value hc hn hv hb hs => ⟨?_, ?_⟩⟩
  · rw [Session.headers_perform]
    exact replacePairs_named hc hn hv hb hs _
  · intro pair hp
    exact removePairs_other hp

/-- A text that holds two lines, and a status line. -/
def twoTexts : List Operation :=
  [.addHeader "X-A: 1\r\nB: 2\n", .addHeader "HTTP/1.1 404"]

/-- A session in a new context. -/
def untouched : Session Unit :=
  { script := "test", context := .new, host := () }

theorem headers_refine_twoTexts :
    (untouched.performAll Host.silent twoTexts).context.headerPairs =
        [("X-A", "1"), ("B", "2")] ∧
      (Session.perform Host.silent (.replaceHeader ("x-a" ++ ":" ++ " 3"))
          (untouched.performAll Host.silent twoTexts)).2.context.headerPairs =
        [("B", "2"), ("x-a", "3")] := by
  obtain ⟨folded, -, replaced⟩ := headers_refine Host.silent twoTexts untouched
  have before : (untouched.performAll Host.silent twoTexts).context.headerPairs =
      [("X-A", "1"), ("B", "2")] := by
    rw [folded]
    decide +kernel
  obtain ⟨left, -⟩ := replaced "x-a" " 3" (by decide +kernel) (by decide +kernel)
    (by decide +kernel) (by decide +kernel) (by decide +kernel)
  refine ⟨before, ?_⟩
  rw [left, before]
  decide +kernel

end ScriptGateway.Script
