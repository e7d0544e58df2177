import ScriptGateway.Files.Path
import ScriptGateway.Proofs.Text.Split
/-!
# Segments and extensions

What the segments of a path are, and what the extension of a name is.

* `mem_segments`: a segment is neither empty nor a point, and holds no slash.
* `segments_append_slash`: the segments of two paths with a slash between them.
* `nameExtension?_eq_some_iff`: the extension stands after the last point, behind a stem.
* `join_relative`, `segments_join_relative`: a relative path that is put under a directory.
* `segments_join`: a name that is put under a directory is one more segment.
-/

namespace ScriptGateway.Files

/-! ## 1. Segments -/

/-- A segment is a name of which no slash is part. -/
theorem mem_segments {path s : List Char} (h : s ∈ segments path) :
    s ≠ [] ∧ s ≠ ['.'] ∧ '/' ∉ s ∧ ∀ c ∈ s, c ∈ path := by
  unfold segments at h
  rw [List.mem_filter] at h
  obtain ⟨hs, hn⟩ := h
  obtain ⟨empty, point⟩ : s ≠ [] ∧ s ≠ ['.'] := by simpa using hn
  exact ⟨empty, point, Text.not_mem_of_mem_splitOn hs, fun c => Text.mem_of_mem_splitOn hs⟩

@[simp] theorem segments_nil : segments [] = [] := rfl

theorem segments_append_slash (s t : List Char) :
    segments (s ++ '/' :: t) = segments s ++ segments t := by
  unfold segments
  rw [List.splitOn_append_cons_self, List.filter_append]

/-- A name is the only segment of itself. -/
theorem segments_name {s : List Char} (hs : '/' ∉ s) (empty : s ≠ []) (point : s ≠ ['.']) :
    segments s = [s] := by
  unfold segments
  rw [List.splitOn_eq_singleton hs]
  simp [empty, point]

/-! ## 2. Extensions -/

/-- Nothing stops the search for a point from the end of a text without one. -/
theorem pointless_reverse {s : List Char} (h : '.' ∉ s) : ∀ c ∈ s.reverse, (c != '.') = true :=
  fun _ hc => bne_iff_ne.mpr fun point => h (point ▸ List.mem_reverse.mp hc)

/-- What the search for the last point finds. -/
theorem afterPoint {e : List Char} (he : '.' ∉ e) (stem : List Char) :
    ((stem ++ '.' :: e).reverse.takeWhile (· != '.')).reverse = e := by
  rw [List.reverse_append, List.reverse_cons, List.append_assoc,
    List.takeWhile_append_of_pos (pointless_reverse he)]
  simp

theorem nameExtension?_point {e : List Char} (he : '.' ∉ e) (stem : List Char) :
    nameExtension? (stem ++ '.' :: e) = if stem = [] then none else some e := by
  unfold nameExtension?
  simp only [afterPoint he]
  cases stem with
  | nil => simp
  | cons c stem => simp; omega

theorem nameExtension?_pointless {name : List Char} (h : '.' ∉ name) :
    nameExtension? name = none := by
  have all : name.reverse.takeWhile (· != '.') = name.reverse := by
    rw [← List.append_nil name.reverse, List.takeWhile_append_of_pos (pointless_reverse h),
      List.takeWhile_nil]
  unfold nameExtension?
  simp [all]

/-- The last point of a name, if it has one. -/
theorem exists_lastPoint {name : List Char} (h : '.' ∈ name) :
    ∃ stem e, '.' ∉ e ∧ name = stem ++ '.' :: e := by
  obtain ⟨before, rest, hr, hb⟩ := List.eq_append_cons_of_mem (List.mem_reverse.mpr h)
  refine ⟨rest.reverse, before.reverse, fun hc => hb (List.mem_reverse.mp hc), ?_⟩
  rw [← List.reverse_reverse name, hr]
  simp

/-- **The extension of a name is what follows its last point**, if anything stands before that. -/
theorem nameExtension?_eq_some_iff {name e : List Char} :
    nameExtension? name = some e ↔ ∃ stem, stem ≠ [] ∧ '.' ∉ e ∧ name = stem ++ '.' :: e := by
  constructor
  · intro h
    by_cases point : '.' ∈ name
    · obtain ⟨stem, after, ha, rfl⟩ := exists_lastPoint point
      rw [nameExtension?_point ha] at h
      split at h
      · simp at h
      · next hs =>
        obtain rfl := Option.some.inj h
        exact ⟨stem, hs, ha, rfl⟩
    · rw [nameExtension?_pointless point] at h
      simp at h
  · rintro ⟨stem, hs, he, rfl⟩
    rw [nameExtension?_point he, if_neg hs]

/-- The extension of a path without parent segments is that of its last segment. -/
theorem extension?_eq_some_iff {path e : List Char} (h : parentSegment ∉ segments path) :
    extension? path = some e ↔
      ∃ stem, stem ≠ [] ∧ '.' ∉ e ∧ (segments path).getLast? = some (stem ++ '.' :: e) := by
  unfold extension? fileName?
  cases hl : (segments path).getLast? with
  | none => simp
  | some name =>
    have named : name ≠ parentSegment := by
      rintro rfl
      exact h (List.mem_of_getLast? hl)
    simp only [named, if_false, Option.bind_some, nameExtension?_eq_some_iff, Option.some.injEq]

/-! ## 3. Joining -/

/-- What separates a directory from a path under it. -/
def separator (directory : String) : String :=
  if directory = "" ∨ directory.toList.getLast? = some '/' then "" else "/"

section Relative

variable (directory : String) {path : String} (relative : path.toList.head? ≠ some '/')

include relative

/-- **A path without a leading slash does not replace the directory.** -/
theorem join_relative : join directory path = directory ++ separator directory ++ path := by
  rw [← String.toList_inj]
  by_cases ends : directory = "" ∨ directory.toList.getLast? = some '/'
  · simp [join, separator, relative, ends]
  · simp [join, separator, relative, ends]

/-- Such a path stands alone, or after a slash. -/
theorem join_cases :
    directory = "" ∧ join directory path = path ∨
      ∃ before, segments before = segments directory.toList ∧
        (join directory path).toList = before ++ '/' :: path.toList := by
  rw [join_relative directory relative, separator]
  split
  · next ends =>
    rcases ends with rfl | ends
    · exact .inl ⟨rfl, String.empty_append⟩
    · obtain ⟨before, hb⟩ := List.getLast?_eq_some_iff.mp ends
      refine .inr ⟨before, ?_, ?_⟩
      · rw [hb, segments_append_slash, segments_nil, List.append_nil]
      · rw [String.append_empty, String.toList_append, hb, List.append_assoc,
          List.singleton_append]
  · refine .inr ⟨directory.toList, rfl, ?_⟩
    rw [String.toList_append, String.toList_append, List.append_assoc]
    rfl

/-- **Its segments come after those of the directory.** -/
theorem segments_join_relative : segments (join directory path).toList =
    segments directory.toList ++ segments path.toList := by
  rcases join_cases directory relative with ⟨rfl, h⟩ | ⟨before, hb, h⟩
  · rw [h]
    rfl
  · rw [h, segments_append_slash, hb]

end Relative

theorem head?_name {name : List Char} (hs : '/' ∉ name) :
    (String.ofList name).toList.head? ≠ some '/' := by
  rw [String.toList_ofList]
  exact fun h => hs (List.mem_of_head? h)

/-- **A name that is put under a directory is one more segment.** -/
theorem segments_join (directory : String) {name : List Char} (hs : '/' ∉ name)
    (empty : name ≠ []) (point : name ≠ ['.']) :
    segments (join directory (String.ofList name)).toList =
      segments directory.toList ++ [name] := by
  rw [segments_join_relative directory (head?_name hs), String.toList_ofList,
    segments_name hs empty point]

/-- What follows the last slash of a joined path is the name that was put there. -/
theorem lastPiece_join (directory : String) {name : List Char} (hs : '/' ∉ name) :
    ((join directory (String.ofList name)).toList.splitOn '/').getLast? = some name := by
  rcases join_cases directory (head?_name hs) with ⟨-, h⟩ | ⟨before, -, h⟩
  · rw [h, String.toList_ofList, List.splitOn_eq_singleton hs]
    rfl
  · rw [h, String.toList_ofList, List.splitOn_append_cons_self, List.splitOn_eq_singleton hs]
    simp

end ScriptGateway.Files
