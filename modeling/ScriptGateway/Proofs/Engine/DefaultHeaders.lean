import ScriptGateway.Proofs.Engine.Execution
import ScriptGateway.Proofs.Script.Headers
/-!
# The headers that a response has

A response has the default headers if its script left no header block. A block that was left is
taken as it is, also if no line of it holds a header: then the response has none.

* `Legible`: a block of which every line holds a header, or no block at all.
* `Operation.legible_edit`: what an operation keeps of that; `legible_headerBlock`: a whole script.
* `Headed`, `response_headed`: the header pairs of every response.
* `response_unheaded`: a response that has none.
-/

namespace ScriptGateway.Script

namespace HeaderBlock

/-! ## 1. Blocks of headers -/

/-- **A block of which every line holds a header**, or no block at all. -/
def Legible (block : List Char) : Prop :=
  block = [] ∨ ∀ reading ∈ readings block, reading.isSome = true

instance : DecidablePred Legible := fun block =>
  inferInstanceAs (Decidable (block = [] ∨ ∀ reading ∈ readings block, reading.isSome = true))

theorem pairs_eq_nil_iff (block : List Char) :
    pairs block = [] ↔ ∀ reading ∈ readings block, reading = none := by
  rw [pairs_eq, List.filterMap_eq_nil_iff]
  rfl

theorem readings_ne_nil (block : List Char) : readings block ≠ [] := by
  unfold readings lines
  rw [ne_eq, List.map_eq_nil_iff]
  exact List.splitOn_ne_nil _ _

/-- Such a block holds no header only if it is not there. -/
theorem Legible.pairs_eq_nil_iff {block : List Char} (h : Legible block) :
    pairs block = [] ↔ block = [] := by
  constructor
  · intro none
    refine h.resolve_right fun some => ?_
    obtain ⟨reading, hm⟩ := List.exists_mem_of_ne_nil _ (readings_ne_nil block)
    have holds := some reading hm
    rw [(HeaderBlock.pairs_eq_nil_iff block).mp none reading hm] at holds
    cases holds
  · rintro rfl
    rfl

theorem legible_addLine {block line : List Char} (h : Legible block)
    (hl : ∀ reading ∈ readings line, reading.isSome = true) : Legible (addLine block line) := by
  unfold addLine
  split
  · exact .inr hl
  · next left =>
    have before := h.resolve_left fun none => left (List.isEmpty_iff.mpr none)
    refine .inr fun reading hm => ?_
    rw [separates_lineEnd block line, List.mem_append] at hm
    exact hm.elim (before reading) (hl reading)

/-- What is left of a block when a name is removed reads as it did before. -/
theorem removeNamed_cases (name block : List Char) :
    removeNamed name block = [] ∨
      ∀ reading ∈ readings (removeNamed name block), reading ∈ readings block := by
  unfold removeNamed
  split
  · exact .inl rfl
  · generalize hk : ((lines block).map (Text.dropOneEnd '\r')).filter
      (fun line => !isNamed name line) = kept
    have mem {line : List Char} (hm : line ∈ kept) :
        line ∈ (lines block).map (Text.dropOneEnd '\r') :=
      (List.mem_filter.mp (hk ▸ hm)).1
    by_cases none : kept = []
    · rw [none]
      exact .inl rfl
    · refine .inr fun reading hr => ?_
      rw [readings_intercalate separates_lineEnd none fun line hm => lineFeed_not_mem (mem hm)]
        at hr
      obtain ⟨line, hm, rfl⟩ := List.mem_map.mp hr
      obtain ⟨whole, hw, rfl⟩ := List.mem_map.mp (mem hm)
      rw [pair?_dropOneEnd]
      exact List.mem_map_of_mem hw

theorem legible_removeNamed {block : List Char} (h : Legible block) (name : List Char) :
    Legible (removeNamed name block) := by
  rcases h with rfl | before
  · exact .inl rfl
  · exact (removeNamed_cases name block).imp_right fun kept reading hm =>
      before reading (kept reading hm)

end HeaderBlock

/-! ## 2. What a script adds -/

open HeaderBlock (Legible pairs)

/-- Whether every line of a text holds a header, if the text is added as one: what sets the status
is not added. -/
def LegibleText (line : String) : Prop :=
  HeaderBlock.isStatusLine (trimLine line) = true ∨ Legible (trimLine line)

instance : DecidablePred LegibleText := fun line =>
  inferInstanceAs (Decidable (HeaderBlock.isStatusLine (trimLine line) = true ∨ _))

/-- Whether every line that an operation adds holds a header. -/
def Operation.IsLegible : Operation → Prop
  | addHeader line => LegibleText line
  | replaceHeader line => LegibleText line
  | _ => True

theorem legible_addText {block : List Char} {line : String} (h : Legible block)
    (hl : LegibleText line) :
    Legible (addText block line) := by
  unfold addText
  split
  · exact h
  · next added =>
    obtain ⟨left, title⟩ := not_or.mp (mt Bool.or_eq_true_iff.mpr added)
    have legible := (hl.resolve_left title).resolve_left fun none =>
      left (List.isEmpty_iff.mpr none)
    exact HeaderBlock.legible_addLine h legible

theorem legible_replaceText {block : List Char} {line : String} (h : Legible block)
    (hl : LegibleText line) :
    Legible (replaceText block line) := by
  unfold replaceText
  split
  · split
    · exact legible_addText h hl
    · exact legible_addText (HeaderBlock.legible_removeNamed h _) hl
  · exact legible_addText h hl

/-- **What one operation keeps.** -/
theorem Operation.legible_edit {op : Operation} {block : List Char} (h : Legible block)
    (ho : op.IsLegible) : Legible (op.edit block) := by
  cases op with
  | addHeader line => exact legible_addText h ho
  | replaceHeader line => exact legible_replaceText h ho
  | removeHeader name => exact HeaderBlock.legible_removeNamed h name.toList
  | clearHeaders => exact .inl rfl
  | _ => exact h

theorem legible_headerBlock {ops : List Operation} (ho : ∀ op ∈ ops, op.IsLegible)
    {block : List Char} (h : Legible block) : Legible (headerBlock block ops) := by
  induction ops generalizing block with
  | nil => exact h
  | cons op ops ih =>
    exact ih (fun op hm => ho op (List.mem_cons_of_mem _ hm))
      (op.legible_edit h (ho op List.mem_cons_self))

/-! ## 3. Responses -/

/-- **The header pairs of a response** to which a script came with these operations. -/
structure Headed (ops : List Operation) (r : Response) : Prop where
  /-- The default headers stand for a block that is empty, and for no other. -/
  read : r.headerPairs =
    if headerBlock [] ops = [] then pairs HeaderBlock.default else pairs (headerBlock [] ops)
  /-- There is a header unless something was left that holds none. -/
  headed_iff : r.headerPairs ≠ [] ↔ headerBlock [] ops = [] ∨ pairs (headerBlock [] ops) ≠ []
  /-- If every line that is added holds a header, there always is one, and the default headers stand
  for a block just if it holds none. -/
  legible : (∀ op ∈ ops, op.IsLegible) → r.headerPairs ≠ [] ∧ r.headerPairs =
    if pairs (headerBlock [] ops) = [] then pairs HeaderBlock.default
    else pairs (headerBlock [] ops)

theorem pairs_default_ne_nil : pairs HeaderBlock.default ≠ [] := by
  decide +kernel

theorem headed_response {ops : List Operation} {c : Context}
    (left : c.headers = headerBlock [] ops) : Headed ops c.response := by
  have read : c.response.headerPairs =
      if headerBlock [] ops = [] then pairs HeaderBlock.default
      else pairs (headerBlock [] ops) := by
    rw [← left]
    split
    · next none => exact headerPairs_response_empty none
    · next some => exact (headerPairs_response some).trans c.headerPairs_eq
  have headed : c.response.headerPairs ≠ [] ↔
      headerBlock [] ops = [] ∨ pairs (headerBlock [] ops) ≠ [] := by
    rw [read]
    split
    · next none => simp [none, pairs_default_ne_nil]
    · next some => simp [some]
  refine ⟨read, headed, fun ho => ?_⟩
  have none := (legible_headerBlock ho (.inl rfl)).pairs_eq_nil_iff
  refine ⟨headed.mpr ?_, ?_⟩
  · exact (Classical.em (headerBlock [] ops = [])).imp_right (mt none.mp)
  · rw [read]
    simp only [none]

end ScriptGateway.Script

namespace ScriptGateway.Engine.Bridge

open Script (Context Host)

variable {σ : Type}

/-- **The headers of every response that comes of an interpreter**, whatever its script did. -/
theorem response_headed (h : Host σ) (interpreter : Script.Interpreter) (b : Bridge)
    (name : String) (c : Context) (script : String) (host : σ) (r : Script.Response)
    (hb : b.backend = .interpreter name)
    (ho : (b.execute h interpreter c script host).outcome = .answered r) :
    (b.execute h interpreter c script host).context.headers =
        Script.headerBlock [] (scriptTrace h interpreter c script host) ∧
      Script.Headed (scriptTrace h interpreter c script host) r := by
  obtain ⟨rfl, context⟩ := execute_answered hb ho
  have left : Script.Left (scriptTrace h interpreter c script host) c.resetOutput
      (scriptRun h interpreter c script host).2.context :=
    (interpreter script).run_context h (opened h c script host)
  exact ⟨context ▸ left.headers, Script.headed_response left.headers⟩

/-- An interpreter that adds two headers in one text and takes the first out again. -/
def retracting : Script.Interpreter := fun _ =>
  .ask (.addHeader "X-A: 1\r\nX-B: 2\n") fun _ => .ask (.removeHeader "x-a") fun _ => .done

theorem response_headed_retracting :
    busy.backend = .interpreter "test" ∧
      (busy.execute Host.silent retracting used "script" ()).outcome = .answered
        { status := 200, headers := Bytes.ofText "X-B: 2", body := [] } ∧
      (∀ op ∈ scriptTrace Host.silent retracting used "script" (), op.IsLegible) ∧
      Script.Response.headerPairs
        { status := 200, headers := Bytes.ofText "X-B: 2", body := [] } = [("X-B", "2")] := by
  have answered : (busy.execute Host.silent retracting used "script" ()).outcome = .answered
      { status := 200, headers := Bytes.ofText "X-B: 2", body := [] } := by
    decide +kernel
  have legible : ∀ op ∈ scriptTrace Host.silent retracting used "script" (), op.IsLegible := by
    have added : Script.LegibleText "X-A: 1\r\nX-B: 2\n" := by
      decide +kernel
    intro op hm
    rcases List.mem_pair.mp hm with rfl | rfl
    · exact added
    · trivial
  obtain ⟨-, headed⟩ := response_headed Host.silent retracting busy "test" used "script" () _ rfl
    answered
  refine ⟨rfl, answered, legible, (headed.legible legible).2.trans ?_⟩
  decide +kernel

/-- An interpreter that adds a text without a colon. -/
def colonless : Script.Interpreter := fun _ =>
  .ask (.addHeader "plain") fun _ => .done

/-- **A response without a header**: its block holds a line, and the line holds none. -/
theorem response_unheaded :
    (busy.execute Host.silent colonless used "script" ()).outcome = .answered
        { status := 200, headers := Bytes.ofText "plain", body := [] } ∧
      Script.Response.headerPairs
        { status := 200, headers := Bytes.ofText "plain", body := [] } = [] ∧
      ¬ ∀ (interpreter : Script.Interpreter) (b : Bridge) (name : String) (c : Context)
        (script : String) (r : Script.Response), b.backend = .interpreter name →
          (b.execute Host.silent interpreter c script ()).outcome = .answered r →
            r.headerPairs ≠ [] := by
  have answered : (busy.execute Host.silent colonless used "script" ()).outcome = .answered
      { status := 200, headers := Bytes.ofText "plain", body := [] } := by
    decide +kernel
  have none : Script.Response.headerPairs
      { status := 200, headers := Bytes.ofText "plain", body := [] } = [] := by
    decide +kernel
  exact ⟨answered, none, fun claim => claim colonless busy "test" used "script" _ rfl answered none⟩

end ScriptGateway.Engine.Bridge
