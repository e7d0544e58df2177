import ScriptGateway.Proofs.Decimal.Numeral
import ScriptGateway.Proofs.Text.Html
import ScriptGateway.Proofs.Text.Split
import ScriptGateway.Proofs.Text.Utf8
import ScriptGateway.Script.Response
/-!
# The fallback page

The page that takes the place of an interpreter shows a script and a thread. Neither can change what
else stands in it, and both can be told from it: the script is escaped, so it ends where the next
tag begins.

* `text_inj`: different scripts or threads give different pages.
* `PageInert`, `page_inert`: all that is said of the page.
-/

namespace ScriptGateway.Script.FallbackPage

open Text (Html.escape)

/-! ## 1. Tags -/

theorem lt_not_mem_escape (script : String) : '<' ∉ (Html.escape script).toList := fun h =>
  Text.Html.not_special_of_mem_escape (Text.Html.toList_escape script ▸ h) (.inl rfl)

theorem lt_not_mem_ofInt (n : Int) : '<' ∉ Decimal.ofInt n := fun h => by
  rcases Decimal.of_mem_ofInt h with e | e <;> exact absurd e (by decide)

/-- The page's own tags are all there is. -/
theorem count_lt_text (script : String) (thread : Int32) :
    (text script thread).toList.count '<' = 21 := by
  simp only [text, String.toList_append, List.count_append, String.toList_ofList,
    List.count_eq_zero.mpr (lt_not_mem_escape script),
    List.count_eq_zero.mpr (lt_not_mem_ofInt thread.toInt)]
  decide +kernel

/-! ## 2. Script and thread -/

/-- What stands in the page, cut before the first tag after the script. -/
theorem toList_text (script : String) (thread : Int32) : (text script thread).toList =
    head.toList ++ ((Html.escape script).toList ++ '<' ::
      ("/code></p>\n<p>Thread: ".toList ++ (Decimal.ofInt thread.toInt ++ tail.toList))) := by
  have tags : middle.toList = '<' :: "/code></p>\n<p>Thread: ".toList := by decide
  simp only [text, String.toList_append, String.toList_ofList, tags, List.append_assoc,
    List.cons_append]

/-- **The script and the thread can be told from the page.** -/
theorem text_inj {script other : String} {thread index : Int32} :
    text script thread = text other index ↔ script = other ∧ thread = index := by
  refine ⟨fun h => ?_, fun ⟨hs, ht⟩ => by rw [hs, ht]⟩
  rw [← String.toList_inj, toList_text, toList_text, List.append_cancel_left_eq] at h
  -- the script ends at the first tag after it
  have first (s : String) (rest : List Char) :
      Text.splitOnce '<' ((Html.escape s).toList ++ '<' :: rest) =
        some ((Html.escape s).toList, rest) :=
    Text.splitOnce_eq_some_iff.mpr ⟨lt_not_mem_escape s, rfl⟩
  have cut := congrArg (Text.splitOnce '<') h
  rw [first, first, Option.some.injEq, Prod.mk.injEq, List.append_cancel_left_eq,
    List.append_cancel_right_eq, Decimal.ofInt_inj, Int32.toInt_inj] at cut
  exact ⟨Text.Html.escape_inj.mp (String.toList_inj.mp cut.1), cut.2⟩

/-! ## 3. The page -/

theorem body_response (script : String) (thread : Int32) :
    (response script thread).body = Bytes.ofText (text script thread) := by
  rw [response]

theorem count_lt_body (script : String) (thread : Int32) :
    (response script thread).body.count 0x3C = 21 := by
  have byte : (0x3C : UInt8) = UInt8.ofNat '<'.toNat := by decide
  rw [body_response, Bytes.ofText, byte, Text.Utf8.count_encode (by decide), count_lt_text]

/-- The page written out, with the two texts it shows. -/
def page (script thread : String) : String :=
  "<!DOCTYPE html>\n<html><head><title>php-embed-bridge</title></head>\n" ++
    "<body><h1>php-embed-bridge (fallback mode)</h1>\n<p>Script: <code>" ++ script ++
    "</code></p>\n<p>Thread: " ++ thread ++
    "</p>\n<p><em>PHP embedding unavailable in current build</em></p>\n</body></html>"

theorem text_eq (script : String) (thread : Int32) :
    text script thread = page (Html.escape script) (toString thread.toInt) :=
  congrArg (page (Html.escape script)) (Decimal.ofList_ofInt thread.toInt)

/-- **What is said of the page.** -/
structure PageInert (script : String) (thread : Int32) : Prop where
  /-- The script is shown without a character that ends an element or an attribute, or begins
  one. -/
  plain : ∀ c ∈ (Html.escape script).toList, c ≠ '<' ∧ c ≠ '>' ∧ c ≠ '"' ∧ c ≠ '\''
  /-- Every ampersand in it begins an entity. -/
  entities : ∀ before after, (Html.escape script).toList = before ++ '&' :: after →
    ∃ e ∈ ["&amp;", "&lt;", "&gt;", "&quot;", "&#39;"], e.toList <+: '&' :: after
  /-- With the entities read back, it is the script. -/
  readBack : Text.Html.unescapeChars (Html.escape script).toList = script.toList
  /-- The page shows the escaped script and the thread in decimal. -/
  body : (response script thread).body =
    Bytes.ofText (page (Html.escape script) (toString thread.toInt))
  /-- Its tags are always the same ones. -/
  tags : (response script thread).body.count 0x3C = 21
  /-- No other script or thread has it. -/
  own : ∀ other index, (response other index).body = (response script thread).body →
    other = script ∧ index = thread

/-- **The fallback page cannot be broken**, whatever script and thread it shows. -/
theorem page_inert (script : String) (thread : Int32) : PageInert script thread where
  plain c hc := by
    have inert := Text.Html.not_special_of_mem_escape (Text.Html.toList_escape script ▸ hc)
    simpa only [Text.Html.IsSpecial, not_or] using inert
  entities before after h :=
    Text.Html.entity_of_ampersand (Text.Html.toList_escape script ▸ h)
  readBack := by rw [Text.Html.toList_escape, Text.Html.unescape_escape]
  body := by rw [body_response, text_eq]
  tags := count_lt_body script thread
  own other index h := by
    rwa [body_response, body_response, Text.Utf8.ofText_inj, text_inj] at h

end ScriptGateway.Script.FallbackPage
