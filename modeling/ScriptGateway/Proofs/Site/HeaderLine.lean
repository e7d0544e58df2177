import ScriptGateway.Proofs.Script.Headers
import ScriptGateway.Site.Reply
/-!
# One header line and the fields it brings

A script adds a header as a text. Only line ends at the end of the text are cut off, while the
block is read line by line later, so the text brings as many headers as it has lines that hold one.

* `brought`: the pairs that a text brings.
* `length_brought`: how many these are.
* `HeaderAdded`, `header_added`: what a text does to the pairs of a response and to the fields of
  the reply.
* `two_fields`: a text that brings two.
-/

namespace ScriptGateway.Script

open HeaderBlock (pairs pair? lines)

/-! ## 1. What a text brings -/

/-- The pairs that a text brings when it is added as a header. A status line brings none. -/
def brought (text : String) : List (String × String) :=
  addPairs [] text

theorem addPairs_eq (before : List (String × String)) (text : String) :
    addPairs before text = before ++ brought text := by
  unfold brought addPairs
  split
  · rw [List.append_nil]
  · rw [List.nil_append]

/-- How many lines of a text hold a pair. -/
def namedLines (text : List Char) : Nat :=
  (lines text).countP fun line => (pair? line).isSome

theorem length_pairs (block : List Char) : (pairs block).length = namedLines block :=
  List.length_filterMap_eq_countP

/-- **A text brings as many pairs as it has lines that hold one**, unless it sets the status. -/
theorem length_brought (text : String) : (brought text).length =
    if HeaderBlock.isStatusLine text.toList then 0 else namedLines text.toList := by
  unfold brought addPairs
  split
  · rfl
  · rw [List.nil_append, length_pairs]

/-- A text of one line holds one pair at most, whatever line ends follow. -/
theorem namedLines_le_one {text : String} (h : '\n' ∉ trimLine text) :
    namedLines text.toList ≤ 1 := by
  rw [← length_pairs, ← pairs_trimLine, HeaderBlock.pairs_of_line h]
  cases pair? (trimLine text) with
  | none => exact Nat.zero_le 1
  | some pair => exact Nat.le_refl 1

theorem length_brought_le_one {text : String} (h : '\n' ∉ trimLine text) :
    (brought text).length ≤ 1 := by
  rw [length_brought]
  split
  · exact Nat.zero_le 1
  · exact namedLines_le_one h

/-! ## 2. Responses -/

variable {σ : Type}

/-- A header that is added leaves no block empty that was not. -/
theorem headers_addHeader_ne (h : Host σ) {s : Session σ} (text : String)
    (hs : s.context.headers ≠ []) :
    (Session.perform h (.addHeader text) s).2.context.headers ≠ [] := by
  rw [(s.did_perform h (.addHeader text)).headers]
  show addText s.context.headers text ≠ []
  unfold addText HeaderBlock.addLine
  split
  · exact hs
  · split
    · next he => exact absurd (List.isEmpty_iff.mp he) hs
    · simp [hs]

/-! ## 3. Replies -/

theorem length_ensureServer (h : Http.Headers) :
    (Reply.ensureServer h).fields.length =
      h.fields.length + (if h.contains "server" then 0 else 1) := by
  unfold Reply.ensureServer
  split
  · rfl
  · exact List.length_append

/-- A reply has at most one field that its pairs do not make, and at least one field. -/
theorem length_reply_le (r : Response) :
    (Reply.ofScript r).headers.fields.length ≤
      (r.headerPairs.filterMap Reply.field?).length + 1 := by
  show (Reply.ensureServer ⟨r.headerPairs.filterMap Reply.field?⟩).fields.length ≤ _
  rw [length_ensureServer]
  dsimp only
  split <;> omega

theorem reply_ne_nil (r : Response) : 0 < (Reply.ofScript r).headers.fields.length := by
  show 0 < (Reply.ensureServer ⟨r.headerPairs.filterMap Reply.field?⟩).fields.length
  rw [length_ensureServer]
  split
  · next hc =>
    obtain ⟨field, hf, -⟩ := List.any_eq_true.mp hc
    exact List.length_pos_of_mem hf
  · exact Nat.succ_pos _

/-- More pairs at the end make so many more fields at most. -/
theorem length_reply_append {r r' : Response} {more : List (String × String)}
    (h : r'.headerPairs = r.headerPairs ++ more) :
    (Reply.ofScript r').headers.fields.length ≤
      (Reply.ofScript r).headers.fields.length + (more.filterMap Reply.field?).length := by
  show (Reply.ensureServer ⟨r'.headerPairs.filterMap Reply.field?⟩).fields.length ≤
    (Reply.ensureServer ⟨r.headerPairs.filterMap Reply.field?⟩).fields.length + _
  rw [h, List.filterMap_append, length_ensureServer, length_ensureServer]
  simp only [List.length_append]
  have kept : (Http.Headers.mk (r.headerPairs.filterMap Reply.field?)).contains "server" = true →
      (Http.Headers.mk (r.headerPairs.filterMap Reply.field? ++
        more.filterMap Reply.field?)).contains "server" = true := by
    intro hc
    unfold Http.Headers.contains at hc ⊢
    rw [List.any_append, hc]
    rfl
  split
  · omega
  · next hn =>
    rw [if_neg fun hc => hn (kept hc)]
    omega

/-! ## 4. One call -/

/-- **What a text that is added as a header does.** -/
structure HeaderAdded (h : Host σ) (s : Session σ) (text : String) : Prop where
  /-- The pairs of the block are those before it, and what the text brings. -/
  block : (Session.perform h (.addHeader text) s).2.context.headerPairs =
    s.context.headerPairs ++ brought text
  /-- So are the pairs of the response, once the script left a header. -/
  response : s.context.headers ≠ [] →
    (Session.perform h (.addHeader text) s).2.context.response.headerPairs =
      s.context.response.headerPairs ++ brought text
  /-- What stands for no header gives way to the first one. -/
  first : s.context.headers = [] →
    (Session.perform h (.addHeader text) s).2.context.response.headerPairs =
      if (Session.perform h (.addHeader text) s).2.context.headers = [] then
        pairs HeaderBlock.default
      else brought text
  /-- A text brings one pair at most if and only if no second line of it holds one. -/
  few : (brought text).length ≤ 1 ↔
    HeaderBlock.isStatusLine text.toList = true ∨ namedLines text.toList ≤ 1
  /-- A single line does, whatever line ends follow it. -/
  oneLine : '\n' ∉ trimLine text → (brought text).length ≤ 1
  /-- The reply has no more fields than it had, and one for each pair that the text brings. -/
  fields : (Reply.ofScript
      (Session.perform h (.addHeader text) s).2.context.response).headers.fields.length ≤
    (Reply.ofScript s.context.response).headers.fields.length +
      ((brought text).filterMap Reply.field?).length

/-- **A call adds the headers that its text holds**, one at most if it is one line. -/
theorem header_added (h : Host σ) (s : Session σ) (text : String) : HeaderAdded h s text := by
  have block : (Session.perform h (.addHeader text) s).2.context.headerPairs =
      s.context.headerPairs ++ brought text := by
    rw [s.headers_perform h (.addHeader text)]
    exact addPairs_eq _ _
  have response (hs : s.context.headers ≠ []) :
      (Session.perform h (.addHeader text) s).2.context.response.headerPairs =
        s.context.response.headerPairs ++ brought text := by
    rw [headerPairs_response (headers_addHeader_ne h text hs), headerPairs_response hs, block]
  have first (hs : s.context.headers = []) :
      (Session.perform h (.addHeader text) s).2.context.response.headerPairs =
        if (Session.perform h (.addHeader text) s).2.context.headers = [] then
          pairs HeaderBlock.default
        else brought text := by
    split
    · next he => exact headerPairs_response_empty he
    · next he =>
      have nothing : s.context.headerPairs = [] := by
        rw [Context.headerPairs_eq, hs]
        rfl
      rw [headerPairs_response he, block, nothing, List.nil_append]
  refine ⟨block, response, first, ?_, length_brought_le_one, ?_⟩
  · rw [length_brought]
    cases HeaderBlock.isStatusLine text.toList <;> simp
  · by_cases hs : s.context.headers = []
    · have one := reply_ne_nil s.context.response
      by_cases he : (Session.perform h (.addHeader text) s).2.context.headers = []
      · have same : (Session.perform h (.addHeader text) s).2.context.response.headerPairs =
            s.context.response.headerPairs ++ [] := by
          rw [headerPairs_response_empty he, headerPairs_response_empty hs, List.append_nil]
        exact Nat.le_trans (length_reply_append same) (Nat.add_le_add_left (Nat.zero_le _) _)
      · have made := length_reply_le (Session.perform h (.addHeader text) s).2.context.response
        rw [first hs, if_neg he] at made
        omega
    · exact length_reply_append (response hs)

/-- A session in which one header was added. -/
def oneHeader : Session Unit :=
  (Session.perform Host.silent (.addHeader "X-A: 1") untouched).2

/-- **A text of two lines brings two fields.** -/
theorem two_fields :
    oneHeader.context.response.headerPairs = [("X-A", "1")] ∧
      (Session.perform Host.silent (.addHeader "X-B: 2\nX-C: 3")
        oneHeader).2.context.response.headerPairs = [("X-A", "1"), ("X-B", "2"), ("X-C", "3")] ∧
      (Reply.ofScript oneHeader.context.response).headers.fields.length = 2 ∧
      (Reply.ofScript (Session.perform Host.silent (.addHeader "X-B: 2\nX-C: 3")
        oneHeader).2.context.response).headers.fields.length = 4 ∧
      ¬ ∀ (s : Session Unit) (text : String), s.context.headers ≠ [] →
        ∃ more : List (String × String), more.length ≤ 1 ∧
          (Session.perform Host.silent (.addHeader text) s).2.context.response.headerPairs =
            s.context.response.headerPairs ++ more := by
  have before : oneHeader.context.response.headerPairs = [("X-A", "1")] := by
    decide +kernel
  have after : (Session.perform Host.silent (.addHeader "X-B: 2\nX-C: 3")
      oneHeader).2.context.response.headerPairs = [("X-A", "1"), ("X-B", "2"), ("X-C", "3")] := by
    decide +kernel
  refine ⟨before, after, by decide +kernel, by decide +kernel, fun claim => ?_⟩
  obtain ⟨more, one, e⟩ := claim oneHeader "X-B: 2\nX-C: 3" (by decide +kernel)
  rw [after, before] at e
  have lengths := congrArg List.length e
  simp at lengths
  omega

/-- The same header on one line brings one. -/
theorem header_added_oneLine :
    '\n' ∉ trimLine "X-B: 2, X-C: 3\r\n" ∧
      (brought "X-B: 2, X-C: 3\r\n").length ≤ 1 ∧
      oneHeader.context.headers ≠ [] ∧
      (Session.perform Host.silent (.addHeader "X-B: 2, X-C: 3\r\n")
        oneHeader).2.context.response.headerPairs =
          oneHeader.context.response.headerPairs ++ brought "X-B: 2, X-C: 3\r\n" := by
  have added := header_added Host.silent oneHeader "X-B: 2, X-C: 3\r\n"
  have line : '\n' ∉ trimLine "X-B: 2, X-C: 3\r\n" := by
    decide +kernel
  have left : oneHeader.context.headers ≠ [] := by
    decide +kernel
  exact ⟨line, added.oneLine line, left, added.response left⟩

end ScriptGateway.Script
