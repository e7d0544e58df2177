import Mathlib.Data.List.DropRight
import ScriptGateway.Text.Blank
/-!
# Cutting and trimming

What the cuts of a sequence come to, said without the recursion that makes them: where the first
separator stands, and what trimming takes off.

* `splitOnce_eq_some_iff`, `splitOnce_eq_none_iff`: the cut at the first separator.
* `not_mem_of_mem_splitOn`, `mem_of_mem_splitOn`: the pieces of a cut at all separators.
* `dropEndWhile_append`: what comes off the end of two parts.
* `trimChars_append`: white space added at the end is trimmed again.
* `trimBoth_trimBoth`, `mem_of_mem_trimBoth`: what was trimmed is trimmed, and nothing is new in it.
* `exists_append_trimBoth`, `trimBoth_eq_self_iff`: what is trimmed, and when that is nothing.
-/

namespace ScriptGateway.Text

universe u

variable {α : Type u}

section Once

variable [DecidableEq α] {sep : α}

/-- **The cut at the first separator.** -/
theorem splitOnce_eq_some_iff {s before after : List α} :
    splitOnce sep s = some (before, after) ↔ sep ∉ before ∧ s = before ++ sep :: after := by
  induction s generalizing before with
  | nil => simp [splitOnce]
  | cons a s ih =>
    unfold splitOnce
    by_cases ha : a = sep
    · subst ha
      rw [if_pos rfl]
      cases before with
      | nil => simp
      | cons b before =>
        -- the first separator stands at the front, so nothing stands before it
        simp only [Option.some.injEq, Prod.mk.injEq, List.mem_cons, List.cons_append,
          List.cons.injEq]
        constructor
        · rintro ⟨h, -⟩
          cases h
        · rintro ⟨hn, rfl, -⟩
          exact absurd (.inl rfl) hn
    · rw [if_neg ha]
      simp only [Option.map_eq_some_iff, Prod.exists, Prod.mk.injEq]
      constructor
      · rintro ⟨before', after', h, rfl, rfl⟩
        obtain ⟨hn, rfl⟩ := ih.mp h
        simp [hn, Ne.symm ha]
      · rintro ⟨hn, h⟩
        cases before with
        | nil =>
          simp only [List.nil_append, List.cons.injEq] at h
          exact absurd h.1 ha
        | cons b before =>
          simp only [List.cons_append, List.cons.injEq] at h
          obtain ⟨rfl, rfl⟩ := h
          exact ⟨before, after, ih.mpr ⟨fun hm => hn (List.mem_cons_of_mem _ hm), rfl⟩, rfl, rfl⟩

theorem splitOnce_eq_none_iff {s : List α} : splitOnce sep s = none ↔ sep ∉ s := by
  induction s with
  | nil => simp [splitOnce]
  | cons a s ih =>
    unfold splitOnce
    by_cases ha : a = sep
    · simp [ha]
    · simp [ha, ih, Ne.symm ha]

end Once

/-- No piece of a cut contains the separator. -/
theorem not_mem_of_mem_splitOn [DecidableEq α] {sep : α} {s piece : List α}
    (h : piece ∈ s.splitOn sep) : sep ∉ piece := by
  by_cases hs : sep ∈ s
  · obtain ⟨before, rest, rfl, hb⟩ := List.eq_append_cons_of_mem hs
    rw [List.splitOn_append_cons_self_of_not_mem hb, List.mem_cons] at h
    rcases h with rfl | h
    · exact hb
    · exact not_mem_of_mem_splitOn h
  · rw [List.splitOn_eq_singleton hs, List.mem_singleton] at h
    rwa [h]
termination_by s.length

/-- The pieces of a cut hold nothing that was not there. -/
theorem mem_of_mem_splitOn [DecidableEq α] {sep a : α} {s piece : List α}
    (h : piece ∈ s.splitOn sep) (ha : a ∈ piece) : a ∈ s := by
  by_cases hs : sep ∈ s
  · obtain ⟨before, rest, rfl, hb⟩ := List.eq_append_cons_of_mem hs
    rw [List.splitOn_append_cons_self_of_not_mem hb, List.mem_cons] at h
    rcases h with rfl | h
    · exact List.mem_append_left _ ha
    · exact List.mem_append_right _ (List.mem_cons_of_mem _ (mem_of_mem_splitOn h ha))
  · rw [List.splitOn_eq_singleton hs, List.mem_singleton] at h
    rwa [h] at ha
termination_by s.length

theorem dropWhile_eq_nil {p : α → Bool} {s : List α} (h : ∀ a ∈ s, p a = true) :
    s.dropWhile p = [] := by
  rw [← List.append_nil s, List.dropWhile_append_of_pos h, List.dropWhile_nil]

/-- What comes off the end of two parts comes off the second first. -/
theorem dropEndWhile_append (p : α → Bool) (s t : List α) :
    dropEndWhile p (s ++ t) =
      if (dropEndWhile p t).isEmpty then dropEndWhile p s else s ++ dropEndWhile p t := by
  unfold dropEndWhile
  rw [List.reverse_append, List.dropWhile_append, List.isEmpty_reverse]
  split
  · rfl
  · rw [List.reverse_append, List.reverse_reverse]

theorem dropEndWhile_eq_nil {p : α → Bool} {s : List α} (h : ∀ a ∈ s, p a = true) :
    dropEndWhile p s = [] := by
  unfold dropEndWhile
  rw [dropWhile_eq_nil fun a ha => h a (List.mem_reverse.mp ha), List.reverse_nil]

theorem dropEndWhile_append_of_all {p : α → Bool} (s : List α) {t : List α}
    (h : ∀ a ∈ t, p a = true) : dropEndWhile p (s ++ t) = dropEndWhile p s := by
  rw [dropEndWhile_append, dropEndWhile_eq_nil h]
  rfl

/-- What comes off the end satisfies the predicate, and nothing else is changed. -/
theorem exists_append_dropEndWhile (p : α → Bool) (s : List α) :
    ∃ t, s = dropEndWhile p s ++ t ∧ ∀ a ∈ t, p a = true := by
  refine ⟨(s.reverse.takeWhile p).reverse, ?_, ?_⟩
  · unfold dropEndWhile
    rw [← List.reverse_append, List.takeWhile_append_dropWhile, List.reverse_reverse]
  · intro a ha
    exact List.all_eq_true.mp List.all_takeWhile a (List.mem_reverse.mp ha)

/-- One element that may come off the end. -/
theorem dropOneEnd_cases [DecidableEq α] (a : α) (s : List α) :
    dropOneEnd a s = s ∨ s = dropOneEnd a s ++ [a] := by
  unfold dropOneEnd
  split
  · next h => exact .inr (List.dropLast_append_getLast? a h).symm
  · exact .inl rfl

/-- **White space added at the end is trimmed again.** -/
theorem trimChars_append {s t : List Char} (h : ∀ c ∈ t, isBlank c = true) :
    trimChars (s ++ t) = trimChars s := by
  unfold trimChars trimBoth
  rw [List.dropWhile_append]
  split
  · next hs =>
    rw [List.isEmpty_iff.mp hs, dropWhile_eq_nil h]
  · exact dropEndWhile_append_of_all _ h

/-- The two cuts leave what stands at the front after the first of them. -/
theorem trimBoth_starts (p : α → Bool) (s : List α) : trimBoth p s <+: s.dropWhile p :=
  List.rdropWhile_prefix p _

/-- What was trimmed is trimmed. -/
theorem trimBoth_trimBoth (p : α → Bool) (s : List α) :
    trimBoth p (trimBoth p s) = trimBoth p s := by
  have front : (trimBoth p s).dropWhile p = trimBoth p s := by
    rw [List.dropWhile_eq_self_iff]
    intro hl
    rw [(trimBoth_starts p s).getElem hl]
    exact List.dropWhile_get_zero_not p s (Nat.lt_of_lt_of_le hl (trimBoth_starts p s).length_le)
  show dropEndWhile p ((trimBoth p s).dropWhile p) = trimBoth p s
  rw [front]
  exact List.rdropWhile_idempotent p (s.dropWhile p)

/-- What trimming takes off both ends satisfies the predicate, and nothing else is changed. -/
theorem exists_append_trimBoth (p : α → Bool) (s : List α) :
    ∃ before after, s = before ++ trimBoth p s ++ after ∧ (∀ a ∈ before, p a = true) ∧
      ∀ a ∈ after, p a = true := by
  obtain ⟨after, ends, last⟩ := exists_append_dropEndWhile p (s.dropWhile p)
  refine ⟨s.takeWhile p, after, ?_, fun a => List.mem_takeWhile_imp, last⟩
  rw [List.append_assoc]
  show s = s.takeWhile p ++ (dropEndWhile p (s.dropWhile p) ++ after)
  rw [← ends, List.takeWhile_append_dropWhile]

/-- **Trimming changes nothing just if neither end may come off.** -/
theorem trimBoth_eq_self_iff {p : α → Bool} {s : List α} :
    trimBoth p s = s ↔ (∀ a ∈ s.head?, p a = false) ∧ ∀ a ∈ s.getLast?, p a = false := by
  have front (t : List α) : t.dropWhile p = t ↔ ∀ a ∈ t.head?, p a = false := by
    rw [List.dropWhile_eq_self_iff]
    cases t <;> simp
  have back : dropEndWhile p s = s ↔ ∀ a ∈ s.getLast?, p a = false := by
    rw [dropEndWhile, List.reverse_eq_iff, front, List.head?_reverse]
  constructor
  · intro same
    have kept : s.dropWhile p = s := by
      refine (List.dropWhile_suffix p).eq_of_length_le ?_
      have starts := (trimBoth_starts p s).length_le
      rwa [same] at starts
    refine ⟨(front s).mp kept, back.mp ?_⟩
    rwa [trimBoth, kept] at same
  · rintro ⟨first, last⟩
    rw [trimBoth, (front s).mpr first, back.mpr last]

theorem mem_of_mem_trimBoth {p : α → Bool} {s : List α} {a : α} (h : a ∈ trimBoth p s) : a ∈ s :=
  (List.dropWhile_suffix p).subset ((trimBoth_starts p s).subset h)

end ScriptGateway.Text
