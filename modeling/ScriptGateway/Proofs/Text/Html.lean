import Mathlib.Data.List.Basic
import ScriptGateway.Proofs.Text.Utf8
import ScriptGateway.Text.Html
/-!
# Escaped texts are inert

Of the characters that markup gives a meaning to, an escaped text has only ampersands, and each of
these begins an entity. So the entities can be read back without knowing where they came from, and a
text that already held entities is told apart from what they stand for.

* `escapeChar_cases`: a character stands for itself, or for an ampersand and a name.
* `not_special_of_mem_escape`, `entity_of_ampersand`: what an escaped text looks like.
* `unescapeChars`: reads the entities back; `unescape_escape`, `escape_inj`: nothing is lost.
* `escapedSize_eq`, `escapedSize_le`: the size that is counted in advance is the size of the escaped
  text, and it is linear in the text.
-/

namespace ScriptGateway.Text.Html

/-- The five entities. -/
def entities : List String :=
  ["&amp;", "&lt;", "&gt;", "&quot;", "&#39;"]

/-- A character that ends an element or an attribute, or begins one. -/
def IsSpecial (c : Char) : Prop :=
  c = '<' ∨ c = '>' ∨ c = '"' ∨ c = '\''

/-- Reads the five entities back; any other text stays. -/
def unescapeChars : List Char → List Char
  | '&' :: 'a' :: 'm' :: 'p' :: ';' :: rest => '&' :: unescapeChars rest
  | '&' :: 'l' :: 't' :: ';' :: rest => '<' :: unescapeChars rest
  | '&' :: 'g' :: 't' :: ';' :: rest => '>' :: unescapeChars rest
  | '&' :: 'q' :: 'u' :: 'o' :: 't' :: ';' :: rest => '"' :: unescapeChars rest
  | '&' :: '#' :: '3' :: '9' :: ';' :: rest => '\'' :: unescapeChars rest
  | c :: rest => c :: unescapeChars rest
  | [] => []

/-! ## 1. One character -/

/-- **A character is written as itself, or as an entity that reads back as it.** -/
theorem escapeChar_cases (c : Char) :
    escapeChar c = [c] ∧ c ≠ '&' ∧ ¬ IsSpecial c ∨
      ∃ name, escapeChar c = '&' :: name ∧ String.ofList ('&' :: name) ∈ entities ∧
        (∀ d ∈ name, d ≠ '&' ∧ ¬ IsSpecial d) ∧
        ∀ rest, unescapeChars ('&' :: (name ++ rest)) = c :: unescapeChars rest := by
  unfold escapeChar entity? IsSpecial
  split
  case h_6 amp lt gt quot apos =>
    refine .inl ⟨rfl, amp, ?_⟩
    rintro (h | h | h | h)
    · exact lt h
    · exact gt h
    · exact quot h
    · exact apos h
  all_goals
    exact .inr ⟨_, rfl, by decide, by simp, fun rest => by simp [unescapeChars]⟩

theorem unescapeChars_cons {c : Char} (h : c ≠ '&') (rest : List Char) :
    unescapeChars (c :: rest) = c :: unescapeChars rest := by
  rw [unescapeChars] <;> simp_all

theorem toList_escape (s : String) : (escape s).toList = escapeChars s.toList :=
  String.toList_ofList

/-! ## 2. The whole text -/

theorem not_special_of_mem_escape {s : List Char} {c : Char} (h : c ∈ escapeChars s) :
    ¬ IsSpecial c := by
  obtain ⟨d, -, hc⟩ := List.mem_flatMap.mp h
  rcases escapeChar_cases d with ⟨plain, -, inert⟩ | ⟨name, written, -, inert, -⟩
  · rw [plain, List.mem_singleton] at hc
    rwa [hc]
  · rw [written, List.mem_cons] at hc
    rcases hc with rfl | hc
    · simp [IsSpecial]
    · exact (inert c hc).2

/-- **Every ampersand begins an entity.** -/
theorem entity_of_ampersand {s before after : List Char}
    (h : escapeChars s = before ++ '&' :: after) :
    ∃ e ∈ entities, e.toList <+: '&' :: after := by
  induction s generalizing before with
  | nil => simp [escapeChars] at h
  | cons c s ih =>
    have parts : escapeChar c ++ escapeChars s = before ++ '&' :: after := h
    rcases List.append_eq_append_iff.mp parts with ⟨more, -, rest⟩ | ⟨more, own, rest⟩
    · exact ih rest
    · cases more with
      | nil =>
        have next : escapeChars s = [] ++ '&' :: after := rest.symm
        exact ih next
      | cons d more =>
        -- the ampersand is one that stands for `c`, so it is the first of an entity
        obtain ⟨rfl, rfl⟩ := List.cons.inj rest
        rcases escapeChar_cases c with ⟨plain, apart, -⟩ | ⟨name, written, entity, inert, -⟩
        · have mem : '&' ∈ escapeChar c := own ▸ List.mem_append_right _ List.mem_cons_self
          rw [plain, List.mem_singleton] at mem
          exact (apart mem.symm).elim
        · rw [written] at own
          cases before with
          | nil =>
            obtain rfl : name = more := (List.cons.inj own).2
            refine ⟨_, entity, ?_⟩
            rw [String.toList_ofList]
            exact List.prefix_append ('&' :: name) (escapeChars s)
          | cons d before =>
            have mem : '&' ∈ name :=
              (List.cons.inj own).2 ▸ List.mem_append_right _ List.mem_cons_self
            exact ((inert _ mem).1 rfl).elim

/-- **Reading the entities back gives the text that was escaped.** -/
theorem unescape_escape (s : List Char) : unescapeChars (escapeChars s) = s := by
  induction s with
  | nil => rfl
  | cons c s ih =>
    show unescapeChars (escapeChar c ++ escapeChars s) = c :: s
    rcases escapeChar_cases c with ⟨plain, apart, -⟩ | ⟨name, written, -, -, back⟩
    · rw [plain, List.singleton_append, unescapeChars_cons apart, ih]
    · rw [written, List.cons_append, back, ih]

theorem escape_inj {s t : String} : escape s = escape t ↔ s = t := by
  refine ⟨fun h => ?_, congrArg _⟩
  have read : unescapeChars (escape s).toList = unescapeChars (escape t).toList := by rw [h]
  rwa [toList_escape, toList_escape, unescape_escape, unescape_escape, String.toList_inj] at read

/-! ## 3. The size in advance -/

/-- A character that has no entity is counted by its own bytes, an entity by its characters, which
are ASCII. -/
theorem escapedCharSize_eq (c : Char) :
    escapedCharSize c = (Utf8.encode (escapeChar c)).length := by
  unfold escapedCharSize escapeChar entity?
  split
  case h_2 none =>
    rw [none, Option.getD_none, Utf8.encode, List.flatMap_singleton, Utf8.length_encodeChar]
  case h_1 entity some =>
    rw [some, Option.getD_some]
    split at some <;> cases some <;> rfl

theorem escapedSizeOfChars_eq (s : List Char) :
    escapedSizeOfChars s = (Utf8.encode (escapeChars s)).length := by
  induction s with
  | nil => rfl
  | cons c s ih =>
    have parts : Utf8.encode (escapeChars (c :: s)) =
        Utf8.encode (escapeChar c) ++ Utf8.encode (escapeChars s) := List.flatMap_append
    rw [escapedSizeOfChars, ih, escapedCharSize_eq, parts, List.length_append]

/-- **Counting without escaping and escaping agree.** -/
theorem escapedSize_eq (s : String) : escapedSize s = (escape s).utf8ByteSize := by
  rw [← Utf8.length_ofText, Bytes.ofText, toList_escape, escapedSize, escapedSizeOfChars_eq]

/-- An entity takes at most six bytes, and a character that has none at most four. -/
theorem escapedCharSize_le (c : Char) : escapedCharSize c ≤ 6 * c.utf8Size := by
  have own := c.utf8Size_pos
  unfold escapedCharSize entity?
  split
  case h_2 => omega
  case h_1 entity some =>
    split at some <;> cases some <;> simp <;> omega

/-- **Escaping makes a text at most six times as long.** -/
theorem escapedSize_le (s : String) : escapedSize s ≤ 6 * s.utf8ByteSize := by
  rw [← Utf8.length_ofText, Bytes.ofText, escapedSize]
  induction s.toList with
  | nil => exact Nat.le_refl 0
  | cons c s ih =>
    have own := escapedCharSize_le c
    have parts : (Utf8.encode (c :: s)).length = c.utf8Size + (Utf8.encode s).length := by
      rw [← Utf8.length_encodeChar, ← List.length_append]
      rfl
    rw [escapedSizeOfChars, parts]
    omega

end ScriptGateway.Text.Html
