import Mathlib.Data.List.Infix
import ScriptGateway.Files.Tree
import ScriptGateway.Proofs.Files.Path
/-!
# Following paths to files

In a tree as disks have them, a path leads to the file it names: every name on the way is that of
a directory.

* `Tree.Sound`: what lies below something lies below a directory.
* `Tree.follow_of_isFile`: the names of a file lead to it.
* `Tree.locate_of_lastPiece`: where a path leads that ends in a name.
-/

namespace ScriptGateway.Files.Tree

variable {t : Tree}

/-- Whatever is on the way to an entry is a directory. -/
def Sound (t : Tree) : Prop :=
  ∀ entry ∈ t.entries, ∀ at_ ∈ entry.1.inits, at_ ≠ entry.1 → t.isDirectory at_ = true

instance (t : Tree) : Decidable t.Sound :=
  inferInstanceAs (Decidable (∀ entry ∈ t.entries, ∀ at_ ∈ entry.1.inits,
    at_ ≠ entry.1 → t.isDirectory at_ = true))

/-- Every file has a content. -/
theorem isSome_content? (t : Tree) (at_ : Location) : (t.content? at_).isSome = t.isFile at_ := by
  unfold content? isFile
  cases t.entry? at_ with
  | none => rfl
  | some e => cases e <;> rfl

theorem exists_entry_of_isFile {at_ : Location} (h : t.isFile at_ = true) :
    ∃ e, (at_, e) ∈ t.entries := by
  have found : ∃ e, t.entry? at_ = some e ∧ e ≠ .directory := by
    unfold isFile at h
    split at h
    · next content he => exact ⟨_, he, Entry.noConfusion⟩
    · next entryPoint he => exact ⟨_, he, Entry.noConfusion⟩
    · cases h
  obtain ⟨e, he, hn⟩ := found
  unfold entry? at he
  split at he
  · next place e' hf =>
    have same := List.find?_some hf
    obtain rfl : place = at_ := by simpa using same
    exact ⟨e', List.mem_of_find?_eq_some hf⟩
  · -- What is only on the way to an entry is a directory.
    split at he
    · exact absurd (Option.some.inj he).symm hn
    · cases he

theorem Sound.isDirectory (sound : t.Sound) {at_ names : Location} (hn : names ≠ [])
    (h : t.isFile (at_ ++ names) = true) : t.isDirectory at_ = true := by
  obtain ⟨e, he⟩ := exists_entry_of_isFile h
  refine sound _ he at_ ?_ ?_
  · rw [List.mem_inits]
    exact List.prefix_append at_ names
  · intro same
    exact hn (List.self_eq_append_right.mp same)

theorem follow_append (from_ : Location) (ss rest : List (List Char)) :
    t.follow from_ (ss ++ rest) = (t.follow from_ ss).bind fun place => t.follow place rest := by
  induction ss generalizing from_ with
  | nil => rfl
  | cons s ss ih =>
    simp only [List.cons_append, follow]
    split
    · rfl
    split
    · exact ih _
    · exact ih _

/-- **The names of a file lead to it**, whatever directory they start from. -/
theorem follow_of_isFile (sound : t.Sound) {ss : List (List Char)} (hp : parentSegment ∉ ss)
    (from_ : Location) (h : t.isFile (from_ ++ ss.map String.ofList) = true) :
    t.follow from_ ss = some (from_ ++ ss.map String.ofList) := by
  induction ss generalizing from_ with
  | nil => simp [follow]
  | cons s ss ih =>
    obtain ⟨hs, hp⟩ : parentSegment ≠ s ∧ parentSegment ∉ ss := by simpa using hp
    have enter : t.isDirectory from_ = true := sound.isDirectory (by simp) h
    rw [List.map_cons, List.append_cons] at h ⊢
    simp only [follow, enter, hs.symm, Bool.not_true, Bool.false_eq_true, if_false]
    exact ih hp _ h

/-- Where a path leads, its segments lead. -/
theorem follow_of_locate {from_ place : Location} {path : String}
    (h : t.locate from_ path = some place) :
    t.follow from_ (segments path.toList) = some place := by
  unfold locate at h
  cases hf : t.follow from_ (segments path.toList) with
  | none => simp [hf] at h
  | some found =>
    simp only [hf] at h
    split at h
    · simp at h
    · exact h

/-- A path that ends in a name leads where its segments lead. -/
theorem locate_of_lastPiece {path : String} {name : List Char}
    (last : (path.toList.splitOn '/').getLast? = some name) (empty : name ≠ [])
    (point : name ≠ ['.']) (from_ : Location) :
    t.locate from_ path = t.follow from_ (segments path.toList) := by
  unfold locate
  cases t.follow from_ (segments path.toList) <;> simp [last, empty, point]

end ScriptGateway.Files.Tree
