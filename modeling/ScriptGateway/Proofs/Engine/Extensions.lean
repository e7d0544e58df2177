import Mathlib.Data.List.TakeWhile
import ScriptGateway.Engine.Extensions
/-!
# What loading extensions comes to

Whether an extension can be loaded depends on its name, on what is loaded already and on its file
alone. Loading adds names and changes nothing else; required names are added up to the first that
cannot be loaded, optional ones if they can.

* `Extensions.opens`: the file is there and is an extension; `isAvailable`: it is loaded or opens.
* `Grown x x' added`: what is loaded after `added` was.
* `load?_available`, `load?_unavailable`: loading one extension.
* `grown_loadRequired`, `loadRequired_eq_none`: loading what is required.
* `grown_loadOptional`: loading what is optional; `grown_loadAll`: loading everything.
-/

namespace ScriptGateway.Engine

theorem mem_insertName {n name : String} {names : List String} :
    n ∈ insertName name names ↔ n = name ∨ n ∈ names := by
  induction names with
  | nil => exact List.mem_singleton.trans (or_iff_left List.not_mem_nil).symm
  | cons other rest ih =>
    unfold insertName
    split
    · exact List.mem_cons
    · split
      · next hn =>
        subst hn
        simp
      · rw [List.mem_cons, ih, List.mem_cons]
        exact or_left_comm

namespace Extensions

/-- Whether a name is one and its file an extension. -/
def opens (tree : Files.Tree) (x : Extensions) (name : String) : Bool :=
  isName name && (x.openFile tree name).isOk

/-- Whether an extension can be loaded: it is loaded, or it opens. -/
def isAvailable (tree : Files.Tree) (x : Extensions) (name : String) : Bool :=
  isName name && (x.loaded.contains name || (x.openFile tree name).isOk)

/-- Whether a file opens does not depend on what is loaded. -/
theorem openFile_loaded (tree : Files.Tree) (x : Extensions) (loaded : List String) :
    openFile tree { x with loaded } = openFile tree x := by
  funext name
  have path : Extensions.path { x with loaded } name = x.path name := rfl
  unfold openFile
  rw [path]

/-- Where nothing is loaded, an extension has to open. -/
theorem isAvailable_unloaded (tree : Files.Tree) (x : Extensions) :
    isAvailable tree { x with loaded := [] } = x.opens tree := by
  funext name
  simp [isAvailable, opens, openFile_loaded]

/-- The extensions once more names are loaded. -/
structure Grown (x x' : Extensions) (added : List String) : Prop where
  setup : x' = { x with loaded := x'.loaded }
  loaded : ∀ n, n ∈ x'.loaded ↔ n ∈ x.loaded ∨ n ∈ added

theorem Grown.refl (x : Extensions) : Grown x x [] :=
  ⟨rfl, fun _ => (or_iff_left List.not_mem_nil).symm⟩

theorem Grown.trans {x x' x'' : Extensions} {added added' : List String} (h : Grown x x' added)
    (h' : Grown x' x'' added') : Grown x x'' (added ++ added') where
  setup := by
    rw [h'.setup, h.setup]
  loaded n := by
    rw [h'.loaded, h.loaded, List.mem_append, or_assoc]

theorem Grown.openFile {x x' : Extensions} {added : List String} (h : Grown x x' added)
    (tree : Files.Tree) : x'.openFile tree = x.openFile tree := by
  rw [h.setup, openFile_loaded]

/-- What was available stays so, and nothing else becomes available. -/
theorem Grown.isAvailable {tree : Files.Tree} {x x' : Extensions} {added : List String}
    (h : Grown x x' added) (ha : ∀ n ∈ added, x.isAvailable tree n = true) :
    x'.isAvailable tree = x.isAvailable tree := by
  funext n
  have loaded := h.loaded n
  unfold Extensions.isAvailable
  rw [h.openFile tree, Bool.eq_iff_iff]
  simp only [Bool.and_eq_true, Bool.or_eq_true, List.contains_iff_mem, loaded]
  constructor
  · rintro ⟨hn, (hl | hl) | ho⟩
    · exact ⟨hn, .inl hl⟩
    · have available := ha n hl
      simpa only [Extensions.isAvailable, Bool.and_eq_true, Bool.or_eq_true,
        List.contains_iff_mem] using available
    · exact ⟨hn, .inr ho⟩
  · rintro ⟨hn, hl | ho⟩
    · exact ⟨hn, .inl (.inl hl)⟩
    · exact ⟨hn, .inr ho⟩

/-- An extension that cannot be loaded is refused. -/
theorem load?_unavailable {tree : Files.Tree} {x : Extensions} {name : String}
    (ha : x.isAvailable tree name = false) : ∃ cause, x.load? tree name = .error cause := by
  unfold isAvailable at ha
  unfold load?
  cases hn : isName name with
  | false => exact ⟨_, rfl⟩
  | true =>
    rw [hn, Bool.true_and, Bool.or_eq_false_iff] at ha
    obtain ⟨unloaded, unopened⟩ := ha
    rw [unloaded]
    cases ho : x.openFile tree name with
    | error cause => exact ⟨cause, rfl⟩
    | ok _ => rw [ho] at unopened; cases unopened

/-- **An extension that can be loaded is loaded**, and nothing else becomes available by that. -/
theorem load?_available {tree : Files.Tree} {x : Extensions} {name : String}
    (ha : x.isAvailable tree name = true) : ∃ x', x.load? tree name = .ok x' ∧ Grown x x' [name] ∧
      x'.isAvailable tree = x.isAvailable tree := by
  have keeps {x' : Extensions} (h : Grown x x' [name]) :
      x'.isAvailable tree = x.isAvailable tree :=
    h.isAvailable fun n hn => List.mem_singleton.mp hn ▸ ha
  unfold isAvailable at ha
  obtain ⟨hn, hl⟩ := Bool.and_eq_true_iff.mp ha
  unfold load?
  rw [hn]
  cases loaded : x.loaded.contains name with
  | true =>
    have same : Grown x x [name] := by
      refine ⟨rfl, fun n => ⟨.inl, ?_⟩⟩
      rintro (h | h)
      · exact h
      · exact List.mem_singleton.mp h ▸ List.contains_iff_mem.mp loaded
    exact ⟨x, rfl, same, keeps same⟩
  | false =>
    rw [loaded, Bool.false_or] at hl
    cases ho : x.openFile tree name with
    | error cause => rw [ho] at hl; cases hl
    | ok _ =>
      have grown : Grown x { x with loaded := insertName name x.loaded } [name] :=
        ⟨rfl, fun n => by rw [List.mem_singleton]; exact mem_insertName.trans or_comm⟩
      exact ⟨_, rfl, grown, keeps grown⟩

/-- Required extensions are added up to the first that cannot be loaded. -/
theorem grown_loadRequired (tree : Files.Tree) (x : Extensions) (names : List String) :
    Grown x (x.loadRequired tree names).2 (names.takeWhile (x.isAvailable tree)) := by
  induction names generalizing x with
  | nil => exact .refl x
  | cons name names ih =>
    unfold loadRequired
    cases ha : x.isAvailable tree name with
    | false =>
      obtain ⟨cause, hl⟩ := load?_unavailable ha
      simpa only [hl, List.takeWhile_cons, ha, Bool.false_eq_true, if_false] using Grown.refl x
    | true =>
      obtain ⟨x', hl, grown, same⟩ := load?_available ha
      have rest := ih x'
      rw [same] at rest
      simp only [hl, List.takeWhile_cons, ha, if_true]
      exact grown.trans rest

/-- Loading what is required fails just if some of it cannot be loaded. -/
theorem loadRequired_eq_none (tree : Files.Tree) (x : Extensions) (names : List String) :
    (x.loadRequired tree names).1 = none ↔ ∀ n ∈ names, x.isAvailable tree n = true := by
  induction names generalizing x with
  | nil => simp [loadRequired]
  | cons name names ih =>
    unfold loadRequired
    cases ha : x.isAvailable tree name with
    | false =>
      obtain ⟨cause, hl⟩ := load?_unavailable ha
      simp [hl, ha]
    | true =>
      obtain ⟨x', hl, -, same⟩ := load?_available ha
      simp [hl, ha, ih x', same]

/-- Optional extensions are added if they can be loaded. -/
theorem grown_loadOptional (tree : Files.Tree) (x : Extensions) (names : List String) :
    Grown x (x.loadOptional tree names).2 (names.filter (x.isAvailable tree)) := by
  induction names generalizing x with
  | nil => exact .refl x
  | cons name names ih =>
    unfold loadOptional
    cases ha : x.isAvailable tree name with
    | false =>
      obtain ⟨cause, hl⟩ := load?_unavailable ha
      simpa only [hl, List.filter_cons, ha, Bool.false_eq_true, if_false] using ih x
    | true =>
      obtain ⟨x', hl, grown, same⟩ := load?_available ha
      have rest := ih x'
      rw [same] at rest
      simp only [hl, List.filter_cons, ha, if_true]
      exact grown.trans rest

/-- **Loading everything**: it fails if something required cannot be loaded, with what stands before
it loaded; else all that is required is loaded, and what is optional as far as it can be. -/
theorem grown_loadAll (tree : Files.Tree) (x : Extensions) :
    if ∀ n ∈ x.required, x.isAvailable tree n = true then
      (x.loadAll tree).failure = none ∧
        Grown x (x.loadAll tree).extensions (x.required ++ x.optional.filter (x.isAvailable tree))
    else
      (x.loadAll tree).failure ≠ none ∧
        Grown x (x.loadAll tree).extensions (x.required.takeWhile (x.isAvailable tree)) := by
  have grown := grown_loadRequired tree x x.required
  have failure := loadRequired_eq_none tree x x.required
  unfold loadAll
  rcases hr : x.loadRequired tree x.required with ⟨cause, x'⟩
  simp only [hr] at grown failure ⊢
  cases cause with
  | some cause =>
    rw [if_neg fun ha => nomatch failure.mpr ha]
    exact ⟨nofun, grown⟩
  | none =>
    have ha := failure.mp rfl
    rw [if_pos ha]
    rw [List.takeWhile_eq_self_iff.mpr ha] at grown
    have optional := grown_loadOptional tree x' x'.optional
    rw [grown.isAvailable ha] at optional
    have same : x'.optional = x.optional := by
      rw [grown.setup]
    refine ⟨rfl, ?_⟩
    rw [← same]
    exact grown.trans optional

end Extensions

end ScriptGateway.Engine
