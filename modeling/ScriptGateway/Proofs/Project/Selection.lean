import Mathlib.Data.Prod.Lex
import Mathlib.Order.Bounds.Basic
import ScriptGateway.Engine.Lifecycle
import ScriptGateway.Project.Detection
import ScriptGateway.Proofs.Project.Constraint
import ScriptGateway.Proofs.Text.Ascii
/-!
# The version that is selected

A version that nobody gave is one the engine starts with, whatever the project's files hold. For a
constraint it is the usual version if that reaches the minimum, else the lowest one that does.

* `LeavesOpen`, `explicit?_eq_none_iff`: a given value that leaves the choice to the project.
* `IsChoice`, `isChoice_atLeast`: the version for a minimum.
* `Resolution`, `version_selected`: every selected version is supported and minimal.
-/

namespace ScriptGateway.Project

/-! ## 1. Values that leave the choice open -/

/-- A given value that is blank, or the word `auto` in any case, with white space around it. -/
def LeavesOpen (given : String) : Prop :=
  ∃ before word after, given.toList = before ++ word ++ after ∧
    (∀ c ∈ before, Text.isBlank c = true) ∧ (∀ c ∈ after, Text.isBlank c = true) ∧
    (word = [] ∨ word.map Text.asciiLower = ['a', 'u', 't', 'o'])

/-- A letter of the word, in either case, is not white space. -/
theorem isBlank_of_asciiLower {c : Char} (h : Text.asciiLower c ∈ ['a', 'u', 't', 'o']) :
    Text.isBlank c = false := by
  refine Text.forall_char
    (P := fun c => Text.asciiLower c ∈ ['a', 'u', 't', 'o'] → Text.isBlank c = false)
    (by decide) (fun c large letter => ?_) c h
  rw [Text.asciiLower_of_large large] at letter
  simp only [List.mem_cons, List.not_mem_nil, or_false] at letter
  rcases letter with rfl | rfl | rfl | rfl <;> exact absurd large (by decide)

/-- A word without white space at its ends is what trimming leaves. -/
theorem trimChars_around {before word after : List Char} (hb : ∀ c ∈ before, Text.isBlank c = true)
    (ha : ∀ c ∈ after, Text.isBlank c = true) (hw : ∀ c ∈ word, Text.isBlank c = false) :
    Text.trimChars (before ++ word ++ after) = word := by
  rw [Text.trimChars_append ha, Text.trimChars, Text.trimBoth, List.dropWhile_append_of_pos hb]
  refine Text.trimBoth_eq_self_iff.mpr ⟨fun c hc => hw c ?_, fun c hc => hw c ?_⟩
  · exact List.mem_of_mem_head? hc
  · exact List.mem_of_mem_getLast? hc

theorem explicit?_eq (given : String) : explicit? given =
    if Text.trimChars given.toList = [] ∨
      (Text.trimChars given.toList).map Text.asciiLower = ['a', 'u', 't', 'o']
    then none else some (String.ofList (Text.trimChars given.toList)) := by
  simp only [explicit?, Text.eqIgnoringCase, Bool.or_eq_true, decide_eq_true_iff, beq_iff_eq]
  rfl

/-- **Just a value that leaves the choice open is none.** -/
theorem explicit?_eq_none_iff {given : String} : explicit? given = none ↔ LeavesOpen given := by
  have open_iff (word : String) (P : Prop) [Decidable P] :
      (if P then none else some word) = none ↔ P :=
    ite_eq_left_iff.trans ⟨fun kept => by_contra fun closed => Option.some_ne_none _ (kept closed),
      fun left closed => absurd left closed⟩
  rw [explicit?_eq, open_iff]
  constructor
  · intro word
    obtain ⟨before, after, parts, hb, ha⟩ :=
      Text.exists_append_trimBoth Text.isBlank given.toList
    exact ⟨before, _, after, parts, hb, ha, word⟩
  · rintro ⟨before, word, after, parts, hb, ha, hw⟩
    have inner : ∀ c ∈ word, Text.isBlank c = false := by
      rcases hw with rfl | letters
      · exact nofun
      · exact fun c hc => isBlank_of_asciiLower (letters ▸ List.mem_map_of_mem hc)
    rwa [parts, trimChars_around hb ha inner]

/-! ## 2. The version for a minimum -/

namespace Version

/-- The two numbers of a version, in the order of versions. -/
def pair (v : Version) : ℕ ×ₗ ℕ :=
  toLex (v.major, v.minor)

theorem notBefore_iff {v w : Version} : v.notBefore w = true ↔ w.pair ≤ v.pair := by
  rw [pair, pair, Prod.Lex.toLex_le_toLex]
  simp only [notBefore, Bool.or_eq_true, Bool.and_eq_true, decide_eq_true_eq, beq_iff_eq,
    eq_comm (a := w.major)]

/-- **The version for a minimum**: the usual one if it reaches the minimum, else the lowest
supported one that does, else the usual one. -/
structure IsChoice (minimum v : Version) : Prop where
  usual : minimum.pair ≤ pair ⟨8, 3⟩ → v = ⟨8, 3⟩
  lowest : ¬ minimum.pair ≤ pair ⟨8, 3⟩ → (∃ w ∈ supported, minimum.pair ≤ w.pair) →
    v ∈ supported ∧ minimum.pair ≤ v.pair ∧ ∀ w ∈ supported, minimum.pair ≤ w.pair → v.pair ≤ w.pair
  otherwise : (∀ w ∈ supported, ¬ minimum.pair ≤ w.pair) → v = ⟨8, 3⟩

theorem sorted_supported : supported.Pairwise fun v w => v.pair ≤ w.pair := by
  decide

theorem of_find?_supported {minimum v : Version}
    (h : supported.find? (·.notBefore minimum) = some v) :
    v ∈ supported ∧ minimum.pair ≤ v.pair ∧
      ∀ w ∈ supported, minimum.pair ≤ w.pair → v.pair ≤ w.pair := by
  obtain ⟨reaches, before, after, parts, earlier⟩ := List.find?_eq_some_iff_append.mp h
  refine ⟨List.mem_of_find?_eq_some h, notBefore_iff.mp reaches, fun w hw wanted => ?_⟩
  have sorted := sorted_supported
  rw [parts] at hw sorted
  rcases List.mem_append.mp hw with hw | hw
  · -- none of the earlier versions reaches the minimum
    have misses := earlier w hw
    rw [notBefore_iff.mpr wanted] at misses
    cases misses
  · obtain ⟨later, -⟩ := List.pairwise_cons.mp (List.pairwise_append.mp sorted).2.1
    rcases List.mem_cons.mp hw with rfl | hw
    · exact le_refl _
    · exact later w hw

theorem isChoice_atLeast (minimum : Version) : IsChoice minimum (atLeast minimum) := by
  unfold atLeast
  by_cases reaches : default.notBefore minimum = true
  · rw [if_pos reaches]
    exact ⟨fun _ => rfl, fun below => (below (notBefore_iff.mp reaches)).elim, fun _ => rfl⟩
  · rw [if_neg reaches]
    have below : ¬ minimum.pair ≤ pair ⟨8, 3⟩ := fun h => reaches (notBefore_iff.mpr h)
    cases found : supported.find? (·.notBefore minimum) with
    | none =>
      have none : ∀ w ∈ supported, ¬ minimum.pair ≤ w.pair := fun w hw wanted =>
        List.find?_eq_none.mp found w hw (notBefore_iff.mpr wanted)
      exact ⟨fun _ => rfl, fun _ ⟨w, hw, wanted⟩ => (none w hw wanted).elim, fun _ => rfl⟩
    | some v =>
      obtain ⟨mem, wanted, least⟩ := of_find?_supported found
      exact ⟨fun h => (below h).elim, fun _ _ => ⟨mem, wanted, least⟩,
        fun none => (none v mem wanted).elim⟩

theorem atLeast_mem_supported (minimum : Version) : atLeast minimum ∈ supported := by
  have usual : default ∈ supported := by decide
  unfold atLeast
  split
  · exact usual
  · cases found : supported.find? (·.notBefore minimum) with
    | none => exact usual
    | some v => exact (of_find?_supported found).1

end Version

/-! ## 3. The version of a project -/

theorem Root.describedVersion_mem (r : Root) :
    r.describedVersion?.getD Version.default ∈ Version.supported := by
  cases h : r.describedVersion? with
  | none => decide
  | some v =>
    simp only [describedVersion?, Constraint.resolve, Option.bind_eq_bind,
      Option.bind_eq_some_iff, Option.map_eq_some_iff] at h
    obtain ⟨content, -, constraint, -, minimum, -, rfl⟩ := h
    exact Version.atLeast_mem_supported minimum

/-- A version that is left open is a supported one. -/
theorem Root.version_mem (r : Root) {given : String} (h : LeavesOpen given) :
    r.version given ∈ Version.supportedTexts := by
  rw [version, explicit?_eq_none_iff.mpr h]
  exact List.mem_map_of_mem r.describedVersion_mem

/-- **What comes of a constraint.** -/
structure Resolution (constraint : String) : Prop where
  /-- One that asks for a minimum gives the version for it. -/
  asking : ∀ minimum, Constraint.Asks constraint minimum →
    ∃ v, Constraint.resolve constraint = some v ∧ Version.IsChoice minimum v
  /-- Any other gives none. -/
  silent : (∀ minimum, ¬ Constraint.Asks constraint minimum) → Constraint.resolve constraint = none

theorem resolution (constraint : String) : Resolution constraint where
  asking minimum h := by
    rw [Constraint.resolve, Constraint.minimum?_eq_some_iff.mpr h]
    exact ⟨_, rfl, Version.isChoice_atLeast minimum⟩
  silent h := by
    rw [Constraint.resolve, Option.map_eq_none_iff, Option.eq_none_iff_forall_ne_some]
    exact fun minimum asked => h minimum (Constraint.minimum?_eq_some_iff.mp asked)

/-- **Versions that are selected automatically are startable and minimal.** A value that leaves the
choice open leads to a supported version in every project, with which an engine can be made. A
constraint gives a version just if it asks for a minimum, and then the version for that minimum. -/
theorem version_selected :
    (∀ (r : Root) (given : String), LeavesOpen given →
      r.version given ∈ ["7.4", "8.0", "8.1", "8.2", "8.3", "8.4"] ∧
        ∀ bridge extensions, ∃ e, Engine.new? (r.version given) bridge extensions = .ok e) ∧
      ∀ constraint, Resolution constraint := by
  refine ⟨fun r given leaves => ?_, resolution⟩
  have mem := r.version_mem leaves
  have texts : Version.supportedTexts = ["7.4", "8.0", "8.1", "8.2", "8.3", "8.4"] := by
    decide +kernel
  have accepted : Version.isSupported (r.version given) = true := List.contains_iff_mem.mpr mem
  refine ⟨texts ▸ mem, fun bridge extensions => ?_⟩
  rw [Engine.new?, if_pos accepted]
  exact ⟨_, rfl⟩

/-- A project that asks for more than the usual version. -/
def demanding : Root :=
  { tree := { entries := [(["composer.json"], .file (Bytes.ofText
      "\x7b\"require\": \x7b\"php\": \"> 8.4.1 || ^9\"\x7d\x7d"))] }
    directory := [] }

theorem version_selected_demanding :
    LeavesOpen " AuTo\n" ∧ Constraint.Asks "> 8.4.1 || ^9" ⟨8, 4⟩ ∧
      demanding.version " AuTo\n" = "8.4" ∧
      (∃ e, Engine.new? (demanding.version " AuTo\n") (.ofBackend .fallback) none = .ok e) ∧
      ∃ v, Constraint.resolve "> 8.4.1 || ^9" = some v ∧ Version.IsChoice ⟨8, 4⟩ v := by
  have leaves : LeavesOpen " AuTo\n" :=
    ⟨[' '], ['A', 'u', 'T', 'o'], ['\n'], by decide, List.forall_mem_singleton.mpr rfl,
      List.forall_mem_singleton.mpr rfl, .inr (by decide)⟩
  have asks : Constraint.Asks "> 8.4.1 || ^9" ⟨8, 4⟩ :=
    Constraint.minimum?_eq_some_iff.mp (by decide +kernel)
  obtain ⟨selected, resolved⟩ := version_selected
  exact ⟨leaves, asks, by decide +kernel, (selected demanding " AuTo\n" leaves).2 _ _,
    (resolved "> 8.4.1 || ^9").asking ⟨8, 4⟩ asks⟩

end ScriptGateway.Project
