import Mathlib.Data.String.Basic
import ScriptGateway.Proofs.Engine.Extensions
import ScriptGateway.Proofs.Files.Tree
/-!
# Required and optional extensions

Loading stops at the first required extension that cannot be loaded, and passes over the optional
ones that cannot. What is tried, and which files are opened, is noted beside the extensions; the
notes change nothing. No name leads out of the extension directory.

* `IsName`, `entry?`, `Loadable`, `Refuses`: what the directory holds for a name, and what follows.
* `load?_cases`: loading one extension.
* `Tried`: extensions with the tries to load some; `extensions_loadAll`: the notes change nothing.
* `Orderly`, `orderly_use`: what holds of loaded names and opened files, whatever is done.
* `loaded_or_first_refused`: loading everything, from any state and in any state that is reached.
-/

namespace ScriptGateway.Engine.Extensions

/-! ## 1. Names and their files -/

/-- A name of an extension: it is not empty, and holds no separator of paths and no NUL. -/
def IsName (name : String) : Prop :=
  name ≠ "" ∧ ∀ c ∈ name.toList, c ≠ '/' ∧ c ≠ '\\' ∧ c ≠ '\x00'

theorem isName_iff {name : String} : isName name = true ↔ IsName name := by
  simp [isName, IsName, isForbidden, not_or, and_assoc]

/-- The directory of the extensions, if it is there. -/
def place? (tree : Files.Tree) (x : Extensions) : Option Files.Location :=
  (tree.locate [] x.directory).filter tree.isDirectory

/-- What stands under the name of an extension's file, right in the directory. -/
def entry? (tree : Files.Tree) (x : Extensions) (name : String) : Option Files.Entry :=
  (x.place? tree).bind fun place => tree.entry? (place ++ [name ++ ".so"])

theorem place?_eq (tree : Files.Tree) (x : Extensions) :
    x.place? tree =
      (tree.follow [] (Files.segments x.directory.toList)).filter tree.isDirectory := by
  unfold place? Files.Tree.locate
  cases tree.follow [] (Files.segments x.directory.toList) with
  | none => rfl
  | some place =>
    cases hd : tree.isDirectory place with
    | true => simp [Option.filter_some, hd]
    | false =>
      simp only [Option.filter_some, hd]
      split <;> simp [Option.filter_some, hd]

/-- **The path of a name leads right into the directory.** -/
theorem locate_path (tree : Files.Tree) (x : Extensions) {name : String} (hn : IsName name) :
    tree.locate [] (x.path name) = (x.place? tree).map (· ++ [name ++ ".so"]) := by
  have file : name ++ ".so" = String.ofList (name.toList ++ ['.', 's', 'o']) := by
    rw [← String.ofList_toList (s := name ++ ".so"), String.toList_append]
    rfl
  have slash : '/' ∉ name.toList ++ ['.', 's', 'o'] := by
    intro hm
    rcases List.mem_append.mp hm with hm | hm
    · exact (hn.2 _ hm).1 rfl
    · revert hm; decide
  have long : 3 ≤ (name.toList ++ ['.', 's', 'o']).length := by simp
  have empty : name.toList ++ ['.', 's', 'o'] ≠ [] := by simp
  have point : name.toList ++ ['.', 's', 'o'] ≠ ['.'] := by
    intro h
    rw [h] at long
    simp at long
  have parent : name.toList ++ ['.', 's', 'o'] ≠ Files.parentSegment := by
    intro h
    rw [h] at long
    simp [Files.parentSegment] at long
  unfold path
  rw [file, Files.Tree.locate_of_lastPiece (Files.lastPiece_join _ slash) empty point,
    Files.segments_join _ slash empty point, Files.Tree.follow_append, place?_eq]
  cases tree.follow [] (Files.segments x.directory.toList) with
  | none => rfl
  | some place =>
    cases hd : tree.isDirectory place <;>
      simp [Files.Tree.follow, Option.filter_some, hd, parent]

/-- An extension that can be loaded: its file is a library with the entry point of one. -/
def Loadable (tree : Files.Tree) (x : Extensions) (name : String) : Prop :=
  IsName name ∧ ∃ content, x.entry? tree name = some (.sharedLibrary true content)

/-- Why an extension cannot be loaded that is not loaded yet. -/
inductive Refuses (tree : Files.Tree) (x : Extensions) (name : String) : ExtensionError → Prop where
  | invalidName (h : ¬ IsName name) : Refuses tree x name (.invalidName name)
  | notFound (hn : IsName name)
      (h : x.entry? tree name = none ∨ x.entry? tree name = some .directory) :
      Refuses tree x name (.notFound name (x.path name))
  | unopened (hn : IsName name) (content : Bytes) (h : x.entry? tree name = some (.file content)) :
      Refuses tree x name (.unopened name notALibrary)
  | noEntryPoint (hn : IsName name) (content : Bytes)
      (h : x.entry? tree name = some (.sharedLibrary false content)) :
      Refuses tree x name (.noEntryPoint name)

/-- What comes of opening the file of a name. -/
theorem openFile_cases (tree : Files.Tree) (x : Extensions) {name : String} (hn : IsName name) :
    Loadable tree x name ∧ x.openFile tree name = .ok () ∨
      ∃ cause, Refuses tree x name cause ∧ x.openFile tree name = .error cause := by
  have found : (tree.locate [] (x.path name)).bind tree.entry? = x.entry? tree name := by
    rw [locate_path tree x hn, Option.bind_map]
    rfl
  unfold openFile
  rw [found]
  split
  · next content h => exact .inl ⟨⟨hn, content, h⟩, rfl⟩
  · next content h => exact .inr ⟨_, .noEntryPoint hn content h, rfl⟩
  · next content h => exact .inr ⟨_, .unopened hn content h, rfl⟩
  · next hl hl' hf =>
    refine .inr ⟨_, .notFound hn ?_, rfl⟩
    cases he : x.entry? tree name with
    | none => exact .inl rfl
    | some entry =>
      cases entry with
      | directory => exact .inr rfl
      | file content => exact (hf content he).elim
      | sharedLibrary hasEntryPoint content =>
        cases hasEntryPoint with
        | true => exact (hl content he).elim
        | false => exact (hl' content he).elim

/-- Whether an extension can be loaded, or is loaded already. -/
def Available (tree : Files.Tree) (x : Extensions) (name : String) : Prop :=
  IsName name ∧ (name ∈ x.loaded ∨ x.Loadable tree name)

theorem not_available_of_refuses {tree : Files.Tree} {x : Extensions} {name : String}
    {cause : ExtensionError} (h : x.Refuses tree name cause) (hl : IsName name → name ∉ x.loaded) :
    ¬ x.Available tree name := by
  intro ⟨hn, ha⟩
  obtain ⟨-, content, there⟩ : x.Loadable tree name := ha.resolve_left (hl hn)
  cases h with
  | invalidName h => exact h hn
  | notFound _ h => simp [there] at h
  | unopened _ other h => simp [there] at h
  | noEntryPoint _ other h => simp [there] at h

/-- **Loading one extension**: nothing happens to what is loaded, what is loadable is added, and
anything else is refused. -/
theorem load?_cases (tree : Files.Tree) (x : Extensions) (name : String) :
    (IsName name ∧ name ∈ x.loaded ∧ x.load? tree name = .ok x) ∨
      (x.Loadable tree name ∧ name ∉ x.loaded ∧
        x.load? tree name = .ok { x with loaded := insertName name x.loaded }) ∨
      ∃ cause, x.Refuses tree name cause ∧ ¬ x.Available tree name ∧
        x.load? tree name = .error cause := by
  unfold load?
  by_cases hn : IsName name
  · rw [isName_iff.mpr hn]
    by_cases hl : name ∈ x.loaded
    · refine .inl ⟨hn, hl, ?_⟩
      simp [hl]
    · rcases openFile_cases tree x hn with ⟨loadable, ho⟩ | ⟨cause, refuses, ho⟩
      · refine .inr (.inl ⟨loadable, hl, ?_⟩)
        simp [hl, ho]
      · refine .inr (.inr ⟨cause, refuses, not_available_of_refuses refuses fun _ => hl, ?_⟩)
        simp [hl, ho]
  · have invalid : isName name = false := by simp [← Bool.not_eq_true, isName_iff, hn]
    refine .inr (.inr ⟨_, .invalidName hn, fun available => hn available.1, ?_⟩)
    simp [invalid]

theorem isAvailable_iff {tree : Files.Tree} {x : Extensions} {name : String} :
    x.isAvailable tree name = true ↔ x.Available tree name := by
  cases ha : x.isAvailable tree name with
  | true =>
    obtain ⟨x', hl, -⟩ := load?_available ha
    rcases load?_cases tree x name with ⟨hn, loaded, -⟩ | ⟨loadable, -⟩ | ⟨cause, -, -, he⟩
    · exact iff_of_true rfl ⟨hn, .inl loaded⟩
    · exact iff_of_true rfl ⟨loadable.1, .inr loadable⟩
    · rw [hl] at he; cases he
  | false =>
    obtain ⟨cause, hl⟩ := load?_unavailable ha
    rcases load?_cases tree x name with ⟨-, -, hx⟩ | ⟨-, -, hx⟩ | ⟨-, -, unavailable, -⟩
    · rw [hl] at hx; cases hx
    · rw [hl] at hx; cases hx
    · exact iff_of_false nofun unavailable

/-- What is not available is refused with its cause. -/
theorem load?_refused {tree : Files.Tree} {x : Extensions} {name : String}
    (ha : x.isAvailable tree name = false) :
    ∃ cause, x.Refuses tree name cause ∧ x.load? tree name = .error cause := by
  have unavailable : ¬ x.Available tree name := by
    rw [← isAvailable_iff, ha]
    exact nofun
  rcases load?_cases tree x name with ⟨hn, loaded, -⟩ | ⟨loadable, -⟩ | ⟨cause, refuses, -, hl⟩
  · exact (unavailable ⟨hn, .inl loaded⟩).elim
  · exact (unavailable ⟨loadable.1, .inr loadable⟩).elim
  · exact ⟨cause, refuses, hl⟩

instance (tree : Files.Tree) (x : Extensions) (name : String) :
    Decidable (x.Available tree name) :=
  decidable_of_iff _ isAvailable_iff

/-! ## 2. The first that is refused, and those that are passed over -/

/-- What is refused does not depend on what is loaded. -/
theorem Refuses.of_loaded {tree : Files.Tree} {x : Extensions} {loaded : List String}
    {name : String} {cause : ExtensionError} (h : Refuses tree { x with loaded } name cause) :
    Refuses tree x name cause := by
  cases h with
  | invalidName h => exact .invalidName h
  | notFound hn h => exact .notFound hn h
  | unopened hn content h => exact .unopened hn content h
  | noEntryPoint hn content h => exact .noEntryPoint hn content h

/-- Required extensions are loaded up to the first that is refused, and that gives the cause. -/
theorem loadRequired_refused {tree : Files.Tree} {x : Extensions} {names : List String}
    {cause : ExtensionError} (h : (x.loadRequired tree names).1 = some cause) :
    ∃ before name after, names = before ++ name :: after ∧
      (∀ n ∈ before, x.isAvailable tree n = true) ∧ x.isAvailable tree name = false ∧
      x.Refuses tree name cause := by
  induction names generalizing x with
  | nil => cases h
  | cons name names ih =>
    unfold loadRequired at h
    cases ha : x.isAvailable tree name with
    | true =>
      obtain ⟨x', hl, grown, same⟩ := load?_available ha
      simp only [hl] at h
      obtain ⟨before, refused, after, parts, available, unavailable, refuses⟩ := ih h
      rw [same] at available unavailable
      rw [grown.setup] at refuses
      refine ⟨name :: before, refused, after, by rw [parts]; rfl, ?_, unavailable,
        refuses.of_loaded⟩
      exact List.forall_mem_cons.mpr ⟨ha, available⟩
    | false =>
      obtain ⟨cause', refuses, hl⟩ := load?_refused ha
      simp only [hl, Option.some.injEq] at h
      subst h
      exact ⟨[], name, names, rfl, List.forall_mem_nil _, ha, refuses⟩

example : loadRequired
      ⟨[(["ext", "a.so"], .sharedLibrary true), (["ext", "c.so"], .sharedLibrary true)]⟩
      { version := "8.3", directory := "/ext", required := [], optional := [], loaded := [] }
      ["a", "b", "c"] =
    (some (.notFound "b" "/ext/b.so"),
      { version := "8.3", directory := "/ext", required := [], optional := []
        loaded := ["a"] }) := by
  decide +kernel

/-- The optional extensions that are passed over are those that are not available, in their order,
each with the cause. -/
theorem passedOver_loadOptional (tree : Files.Tree) (x : Extensions) (names : List String) :
    (x.loadOptional tree names).1.map (·.1) = names.filter (!x.isAvailable tree ·) ∧
      ∀ p ∈ (x.loadOptional tree names).1, x.Refuses tree p.1 p.2 := by
  induction names generalizing x with
  | nil => exact ⟨rfl, nofun⟩
  | cons name names ih =>
    unfold loadOptional
    cases ha : x.isAvailable tree name with
    | true =>
      obtain ⟨x', hl, grown, same⟩ := load?_available ha
      obtain ⟨order, causes⟩ := ih x'
      rw [same] at order
      rw [grown.setup] at causes
      simp only [hl, List.filter_cons, ha]
      exact ⟨order, fun p hp => (causes p (grown.setup ▸ hp)).of_loaded⟩
    | false =>
      obtain ⟨order, causes⟩ := ih x
      obtain ⟨cause, refuses, hl⟩ := load?_refused ha
      simp only [hl, List.filter_cons, ha, List.map_cons, order]
      exact ⟨rfl, List.forall_mem_cons.mpr ⟨refuses, causes⟩⟩

/-- Where everything required is there, the optional extensions that are not are passed over. -/
theorem passedOver_loadAll {tree : Files.Tree} {x : Extensions}
    (h : (x.loadAll tree).failure = none) :
    (x.loadAll tree).passedOver.map (·.1) = x.optional.filter (¬ x.Available tree ·) ∧
      ∀ p ∈ (x.loadAll tree).passedOver, x.Refuses tree p.1 p.2 := by
  have grown := grown_loadRequired tree x x.required
  have available := loadRequired_eq_none tree x x.required
  unfold loadAll at h ⊢
  rcases hr : x.loadRequired tree x.required with ⟨failure, x'⟩
  simp only [hr] at h grown available ⊢
  cases failure with
  | some cause => cases h
  | none =>
    have all := available.mp rfl
    have optional : x'.optional = x.optional := by rw [grown.setup]
    rw [List.takeWhile_eq_self_iff.mpr all] at grown
    obtain ⟨order, causes⟩ := passedOver_loadOptional tree x' x'.optional
    rw [grown.isAvailable all] at order
    refine ⟨?_, fun p hp => ?_⟩
    · rw [optional] at order
      simp only [optional, order, decide_not, ← isAvailable_iff, Bool.decide_eq_true]
    · have refuses := causes p hp
      rw [grown.setup] at refuses
      exact refuses.of_loaded

/-- A failure comes of the required extensions, and no optional one is passed over then. -/
theorem loadRequired_of_failure {tree : Files.Tree} {x : Extensions} {cause : ExtensionError}
    (h : (x.loadAll tree).failure = some cause) :
    (x.loadRequired tree x.required).1 = some cause ∧ (x.loadAll tree).passedOver = [] := by
  unfold loadAll at h ⊢
  rcases hr : x.loadRequired tree x.required with ⟨failure, x'⟩
  simp only [hr] at h ⊢
  cases failure with
  | some cause' => exact ⟨h, rfl⟩
  | none => cases h

/-! ## 3. Tries -/

/-- The path of the file that loading an extension opens. Nothing is opened for what is no name, for
what is loaded, and where there is no file. -/
def opening? (tree : Files.Tree) (x : Extensions) (name : String) : Option String :=
  if isName name && !x.loaded.contains name
      && ((tree.locate [] (x.path name)).any tree.isFile) then
    some (x.path name)
  else none

/-- A try to load an extension: its name, and the path of the file that was opened, if one was. -/
structure Try where
  name : String
  opened : Option String

/-- Extensions, with the tries that were made to load some. -/
structure Tried where
  extensions : Extensions
  tries : List Try

namespace Tried

/-- Tries to load one extension. -/
def load (tree : Files.Tree) (s : Tried) (name : String) : Tried :=
  { extensions := (s.extensions.load? tree name).toOption.getD s.extensions
    tries := s.tries ++ [⟨name, s.extensions.opening? tree name⟩] }

/-- Tries every one of some extensions. -/
def loadOptional (tree : Files.Tree) (s : Tried) (names : List String) : Tried :=
  names.foldl (load tree) s

/-- Tries extensions up to the first that fails. -/
def loadRequired (tree : Files.Tree) (s : Tried) : List String → Tried
  | [] => s
  | name :: rest =>
    match s.extensions.load? tree name with
    | .ok _ => loadRequired tree (s.load tree name) rest
    | .error _ => s.load tree name

/-- Tries what is configured: the required extensions first, then the optional. -/
def loadAll (tree : Files.Tree) (s : Tried) : Tried :=
  let required := s.loadRequired tree s.extensions.required
  match (s.extensions.loadRequired tree s.extensions.required).1 with
  | some _ => required
  | none => required.loadOptional tree required.extensions.optional

variable {tree : Files.Tree}

theorem extensions_load_of_available {s : Tried} {name : String}
    (ha : s.extensions.isAvailable tree name = true) :
    (s.load tree name).extensions.isAvailable tree = s.extensions.isAvailable tree := by
  obtain ⟨x', hl, -, same⟩ := load?_available ha
  simp [load, hl, Except.toOption, same]

/-- The required extensions that are tried: those before the first that fails, and that one. -/
theorem loadRequired_eq (s : Tried) (names : List String) :
    s.loadRequired tree names = s.loadOptional tree
      (names.takeWhile (s.extensions.isAvailable tree)
        ++ (names.dropWhile (s.extensions.isAvailable tree)).take 1) := by
  induction names generalizing s with
  | nil => rfl
  | cons name names ih =>
    unfold loadRequired
    cases ha : s.extensions.isAvailable tree name with
    | true =>
      obtain ⟨x', hl, -, -⟩ := load?_available ha
      have rest := ih (s.load tree name)
      rw [extensions_load_of_available ha] at rest
      simp only [hl, List.takeWhile_cons, List.dropWhile_cons, ha, if_true]
      exact rest
    | false =>
      obtain ⟨cause, hl⟩ := load?_unavailable ha
      simp [hl, ha, loadOptional]

section Notes

variable (tree : Files.Tree)

theorem extensions_loadRequired (s : Tried) (names : List String) :
    (s.loadRequired tree names).extensions = (s.extensions.loadRequired tree names).2 := by
  induction names generalizing s with
  | nil => rfl
  | cons name names ih =>
    unfold loadRequired Extensions.loadRequired
    cases hl : s.extensions.load? tree name with
    | ok x' =>
      have one : (s.load tree name).extensions = x' := by simp [load, hl, Except.toOption]
      exact (ih (s.load tree name)).trans (by rw [one])
    | error cause => simp [load, hl, Except.toOption]

theorem extensions_loadOptional (s : Tried) (names : List String) :
    (s.loadOptional tree names).extensions = (s.extensions.loadOptional tree names).2 := by
  induction names generalizing s with
  | nil => rfl
  | cons name names ih =>
    have rest : (s.loadOptional tree (name :: names)).extensions =
        ((s.load tree name).extensions.loadOptional tree names).2 := ih (s.load tree name)
    rw [rest]
    cases hl : s.extensions.load? tree name <;>
      simp [Extensions.loadOptional, load, hl, Except.toOption]

/-- **The notes change nothing.** -/
theorem extensions_loadAll (s : Tried) :
    (s.loadAll tree).extensions = (s.extensions.loadAll tree).extensions := by
  have required := extensions_loadRequired tree s s.extensions.required
  unfold loadAll Extensions.loadAll
  rcases hr : s.extensions.loadRequired tree s.extensions.required with ⟨failure, x'⟩
  rw [hr] at required
  cases failure with
  | some cause => exact required
  | none =>
    simp only [extensions_loadOptional, required]

theorem names_loadOptional (s : Tried) (names : List String) :
    (s.loadOptional tree names).tries.map (·.name) = s.tries.map (·.name) ++ names := by
  induction names generalizing s with
  | nil => simp [loadOptional]
  | cons name names ih =>
    have rest := ih (s.load tree name)
    simpa [loadOptional, load] using rest

/-- **What is tried**: the required extensions up to the first that fails, and the optional ones
only if none does. -/
theorem names_loadAll (s : Tried) :
    (s.loadAll tree).tries.map (·.name) = s.tries.map (·.name) ++
      if (s.extensions.loadAll tree).failure = none then
        s.extensions.required ++ s.extensions.optional
      else s.extensions.required.takeWhile (s.extensions.isAvailable tree)
        ++ (s.extensions.required.dropWhile (s.extensions.isAvailable tree)).take 1 := by
  have grown := grown_loadRequired tree s.extensions s.extensions.required
  have available := loadRequired_eq_none tree s.extensions s.extensions.required
  have required := extensions_loadRequired tree s s.extensions.required
  have tried := names_loadOptional tree s
    (s.extensions.required.takeWhile (s.extensions.isAvailable tree)
      ++ (s.extensions.required.dropWhile (s.extensions.isAvailable tree)).take 1)
  rw [← loadRequired_eq] at tried
  unfold loadAll Extensions.loadAll
  rcases hr : s.extensions.loadRequired tree s.extensions.required with ⟨failure, x'⟩
  simp only [hr] at required grown available
  cases failure with
  | some cause => exact tried
  | none =>
    have all := available.mp rfl
    have same : x'.optional = s.extensions.optional := by rw [grown.setup]
    rw [List.takeWhile_eq_self_iff.mpr all, List.dropWhile_eq_nil_iff.mpr all] at tried
    simp [names_loadOptional, tried, required, same]

end Notes

end Tried

/-! ## 4. Whatever is done with extensions -/

theorem isFile_iff {tree : Files.Tree} {place : Files.Location} :
    tree.isFile place = true ↔ ∃ entry, tree.entry? place = some entry ∧ entry ≠ .directory := by
  unfold Files.Tree.isFile
  cases tree.entry? place with
  | none => simp
  | some entry => cases entry <;> simp

/-- **A file is opened just for a name that is not loaded, if the directory has its file.** -/
theorem opening?_eq_some_iff {tree : Files.Tree} {x : Extensions} {name p : String} :
    x.opening? tree name = some p ↔ IsName name ∧ name ∉ x.loaded ∧
      (∃ entry, x.entry? tree name = some entry ∧ entry ≠ .directory) ∧ p = x.path name := by
  by_cases hn : IsName name
  · have there : (tree.locate [] (x.path name)).any tree.isFile = true ↔
        ∃ entry, x.entry? tree name = some entry ∧ entry ≠ .directory := by
      rw [locate_path tree x hn]
      unfold entry?
      cases x.place? tree with
      | none => simp
      | some place => simpa using isFile_iff
    have named : isName name = true := isName_iff.mpr hn
    unfold opening?
    by_cases hl : name ∈ x.loaded <;> simp [hl, hn, named, there, eq_comm]
  · have invalid : isName name = false := by simp [← Bool.not_eq_true, isName_iff, hn]
    simp [opening?, invalid, hn]

/-- Unless the directory has no name, the path of a file holds a slash, so that the file is opened
where it lies and not searched for. -/
theorem slash_mem_join {directory : String} (hd : directory ≠ "") (name : String) :
    '/' ∈ (Files.join directory name).toList := by
  have filled : directory.toList ≠ [] := fun h => hd (String.toList_eq_nil_iff.mp h)
  unfold Files.join
  rw [String.toList_ofList]
  split
  · next h => exact List.mem_of_head? h
  · split
    · next h =>
      have last : directory.toList.getLast? = some '/' := by simpa [filled] using h
      exact List.mem_append_left _ (List.mem_of_getLast? last)
    · simp

theorem sorted_insertName {name : String} {names : List String} (h : names.Pairwise (· < ·)) :
    (insertName name names).Pairwise (· < ·) := by
  induction names with
  | nil => simp [insertName]
  | cons other names ih =>
    obtain ⟨above, rest⟩ := List.pairwise_cons.mp h
    unfold insertName
    split
    · next less =>
      have all : ∀ n ∈ other :: names, name < n :=
        List.forall_mem_cons.mpr ⟨less, fun n hn => String.lt_trans less (above n hn)⟩
      exact List.pairwise_cons.mpr ⟨all, h⟩
    · next notLess =>
      split
      · exact h
      · next different =>
        have greater : other < name := lt_of_le_of_ne (not_lt.mp notLess) (Ne.symm different)
        refine List.pairwise_cons.mpr ⟨fun n hn => ?_, ih rest⟩
        rcases mem_insertName.mp hn with rfl | hn
        · exact greater
        · exact above n hn

/-- What is done with extensions. -/
inductive Use where
  | loadAll
  | load (name : String)
  | unloadAll

/-- The extensions after one use. -/
def use (tree : Files.Tree) (x : Extensions) : Use → Extensions
  | .loadAll => (x.loadAll tree).extensions
  | .load name => (x.load? tree name).toOption.getD x
  | .unloadAll => x.unloadAll

namespace Tried

/-- The extensions after one use, with the tries. -/
def use (tree : Files.Tree) (s : Tried) : Use → Tried
  | .loadAll => s.loadAll tree
  | .load name => s.load tree name
  | .unloadAll => { s with extensions := s.extensions.unloadAll }

/-- **What holds of the extensions of a directory**: what is loaded is named, each name once and in
order, and its file was opened. Only files of names were opened. -/
structure Orderly (directory : String) (s : Tried) : Prop where
  place : s.extensions.directory = directory
  named : ∀ n ∈ s.extensions.loaded, IsName n
  sorted : s.extensions.loaded.Pairwise (· < ·)
  opened : ∀ t ∈ s.tries, ∀ p, t.opened = some p →
    IsName t.name ∧ p = Files.join directory (t.name ++ ".so")
  loaded : ∀ n ∈ s.extensions.loaded, ∃ t ∈ s.tries,
    t.name = n ∧ t.opened = some (Files.join directory (n ++ ".so"))

variable {tree : Files.Tree} {directory : String} {s : Tried}

/-- One more try, whatever comes of it. -/
theorem Orderly.tried (h : Orderly directory s) (tree : Files.Tree) (name : String) :
    Orderly directory
      { s with tries := s.tries ++ [⟨name, s.extensions.opening? tree name⟩] } where
  place := h.place
  named := h.named
  sorted := h.sorted
  opened t ht p hp := by
    rcases List.mem_append.mp ht with ht | ht
    · exact h.opened t ht p hp
    · obtain rfl := List.mem_singleton.mp ht
      obtain ⟨hn, -, -, rfl⟩ := opening?_eq_some_iff.mp hp
      exact ⟨hn, by rw [← h.place]; rfl⟩
  loaded n hn := by
    obtain ⟨t, ht, same⟩ := h.loaded n hn
    exact ⟨t, List.mem_append_left _ ht, same⟩

theorem orderly_load (h : Orderly directory s) (name : String) :
    Orderly directory (s.load tree name) := by
  have tried := h.tried tree name
  unfold load
  rcases load?_cases tree s.extensions name with
    ⟨-, -, hl⟩ | ⟨loadable, unloaded, hl⟩ | ⟨_, -, -, hl⟩
  · rw [hl]
    exact tried
  · have opening : s.extensions.opening? tree name =
        some (Files.join directory (name ++ ".so")) := by
      obtain ⟨named, content, there⟩ := loadable
      rw [← h.place]
      exact opening?_eq_some_iff.mpr ⟨named, unloaded, ⟨_, there, nofun⟩, rfl⟩
    rw [hl]
    refine ⟨tried.place, fun n hn => ?_, sorted_insertName tried.sorted, tried.opened,
      fun n hn => ?_⟩
    · rcases mem_insertName.mp hn with rfl | hn
      · exact loadable.1
      · exact h.named n hn
    · rcases mem_insertName.mp hn with rfl | hn
      · exact ⟨_, List.mem_append_right _ (List.mem_singleton.mpr rfl), rfl, opening⟩
      · exact tried.loaded n hn
  · rw [hl]
    exact tried

theorem orderly_loadOptional (h : Orderly directory s) (names : List String) :
    Orderly directory (s.loadOptional tree names) := by
  induction names generalizing s with
  | nil => exact h
  | cons name names ih => exact ih (orderly_load h name)

theorem orderly_use (h : Orderly directory s) (u : Use) : Orderly directory (s.use tree u) := by
  cases u with
  | loadAll =>
    have required : Orderly directory (s.loadRequired tree s.extensions.required) := by
      rw [loadRequired_eq]
      exact orderly_loadOptional h _
    simp only [use, loadAll]
    split
    · exact required
    · exact orderly_loadOptional required _
  | load name => exact orderly_load h name
  | unloadAll => exact ⟨h.place, nofun, List.Pairwise.nil, h.opened, nofun⟩

theorem extensions_use (s : Tried) (u : Use) :
    (s.use tree u).extensions = s.extensions.use tree u := by
  cases u with
  | loadAll => exact extensions_loadAll tree s
  | load name => rfl
  | unloadAll => rfl

/-- The extensions after some uses, each with the files that are there at its time. -/
def run (s : Tried) (uses : List (Files.Tree × Use)) : Tried :=
  uses.foldl (fun s u => s.use u.1 u.2) s

theorem extensions_run (s : Tried) (uses : List (Files.Tree × Use)) :
    (s.run uses).extensions = uses.foldl (fun x u => x.use u.1 u.2) s.extensions := by
  induction uses generalizing s with
  | nil => rfl
  | cons u uses ih =>
    have rest := ih (s.use u.1 u.2)
    rw [extensions_use] at rest
    exact rest

theorem orderly_run (h : Orderly directory s) (uses : List (Files.Tree × Use)) :
    Orderly directory (s.run uses) := by
  induction uses generalizing s with
  | nil => exact h
  | cons u uses ih => exact ih (orderly_use h u.2)

end Tried

/-! ## 5. The results -/

/-- **What comes of loading everything.** -/
structure LoadsAll (tree : Files.Tree) (x : Extensions) : Prop where
  /-- It succeeds just if every required name is one, and is loaded or can be. -/
  succeeds : (x.loadAll tree).failure = none ↔
    ∀ n ∈ x.required, IsName n ∧ (n ∈ x.loaded ∨ x.Loadable tree n)
  /-- Then what was loaded is, and all that is required, and what is optional and can be loaded. -/
  success : (x.loadAll tree).failure = none → ∀ n,
    n ∈ (x.loadAll tree).extensions.loaded ↔
      n ∈ x.loaded ∨ n ∈ x.required ∨ n ∈ x.optional ∧ x.Loadable tree n
  /-- Everything was tried, and the other optional names were passed over, each for its cause. -/
  passedOver : (x.loadAll tree).failure = none →
    ((⟨x, []⟩ : Tried).loadAll tree).tries.map (·.name) = x.required ++ x.optional ∧
      (x.loadAll tree).passedOver.map (·.1) = x.optional.filter (¬ x.Available tree ·) ∧
      ∀ p ∈ (x.loadAll tree).passedOver, x.Refuses tree p.1 p.2
  /-- Else it fails for the first required name that is refused. The names before it are loaded,
  and nothing was tried behind it. -/
  failure : ∀ cause, (x.loadAll tree).failure = some cause →
    ∃ before name after, x.required = before ++ name :: after ∧
      (∀ n ∈ before, x.Available tree n) ∧ ¬ x.Available tree name ∧ x.Refuses tree name cause ∧
      (∀ n, n ∈ (x.loadAll tree).extensions.loaded ↔ n ∈ x.loaded ∨ n ∈ before) ∧
      ((⟨x, []⟩ : Tried).loadAll tree).tries.map (·.name) = before ++ [name] ∧
      (x.loadAll tree).passedOver = []
  /-- Nothing but the loaded names is changed, and the tries are noted beside that. -/
  rest : (x.loadAll tree).extensions = { x with loaded := (x.loadAll tree).extensions.loaded } ∧
    ((⟨x, []⟩ : Tried).loadAll tree).extensions = (x.loadAll tree).extensions

theorem loadsAll (tree : Files.Tree) (x : Extensions) : LoadsAll tree x := by
  have outcome := grown_loadAll tree x
  have names := Tried.names_loadAll tree ⟨x, []⟩
  have noted := Tried.extensions_loadAll tree ⟨x, []⟩
  have available (n : String) : x.isAvailable tree n = true ↔ x.Available tree n := isAvailable_iff
  rw [List.map_nil, List.nil_append] at names
  by_cases all : ∀ n ∈ x.required, x.isAvailable tree n = true
  · rw [if_pos all] at outcome
    obtain ⟨success, grown⟩ := outcome
    rw [if_pos success] at names
    have loaded (n : String) : n ∈ (x.loadAll tree).extensions.loaded ↔
        n ∈ x.loaded ∨ n ∈ x.required ∨ n ∈ x.optional ∧ x.Loadable tree n := by
      rw [grown.loaded, List.mem_append, List.mem_filter, available]
      constructor
      · intro h
        rcases h with hl | hr | ⟨ho, -, hl | hl⟩
        · exact .inl hl
        · exact .inr (.inl hr)
        · exact .inl hl
        · exact .inr (.inr ⟨ho, hl⟩)
      · intro h
        rcases h with hl | hr | ⟨ho, hl⟩
        · exact .inl hl
        · exact .inr (.inl hr)
        · exact .inr (.inr ⟨ho, hl.1, .inr hl⟩)
    refine ⟨iff_of_true success fun n hn => (available n).mp (all n hn), fun _ => loaded,
      fun _ => ⟨names, passedOver_loadAll success⟩, fun cause failed => ?_, grown.setup, noted⟩
    rw [success] at failed
    cases failed
  · rw [if_neg all] at outcome
    obtain ⟨failed, grown⟩ := outcome
    rw [if_neg failed] at names
    refine ⟨iff_of_false failed fun h => all fun n hn => (available n).mpr (h n hn),
      fun success => (failed success).elim, fun success => (failed success).elim,
      fun cause failure => ?_, grown.setup, noted⟩
    obtain ⟨required, passedOver⟩ := loadRequired_of_failure failure
    obtain ⟨before, name, after, parts, earlier, unavailable, refuses⟩ :=
      loadRequired_refused required
    have beforeFailure : x.required.takeWhile (x.isAvailable tree) = before := by
      rw [parts, List.takeWhile_append_of_pos earlier, List.takeWhile_cons, unavailable]
      simp
    have fromFailure : x.required.dropWhile (x.isAvailable tree) = name :: after := by
      rw [parts, List.dropWhile_append_of_pos earlier, List.dropWhile_cons, unavailable]
      simp
    rw [beforeFailure] at grown
    rw [beforeFailure, fromFailure] at names
    refine ⟨before, name, after, parts, fun n hn => (available n).mp (earlier n hn), ?_, refuses,
      grown.loaded, names, passedOver⟩
    rw [← available, unavailable]
    exact nofun

/-- **What is kept of extensions that were not loaded at first, whatever is done with them.** -/
structure StaysInside (x : Extensions) (uses : List (Files.Tree × Use)) : Prop where
  /-- Every loaded name is one, and stands there once. -/
  named : ∀ n ∈ (uses.foldl (fun x u => x.use u.1 u.2) x.unloadAll).loaded, IsName n
  sorted : (uses.foldl (fun x u => x.use u.1 u.2) x.unloadAll).loaded.Pairwise (· < ·)
  /-- The tries are noted beside that. -/
  noted : ((⟨x.unloadAll, []⟩ : Tried).run uses).extensions =
    uses.foldl (fun x u => x.use u.1 u.2) x.unloadAll
  /-- The file of every loaded name was opened. -/
  loaded : ∀ n ∈ (uses.foldl (fun x u => x.use u.1 u.2) x.unloadAll).loaded,
    ∃ t ∈ ((⟨x.unloadAll, []⟩ : Tried).run uses).tries, t.name = n ∧ t.opened = some (x.path n)
  /-- Every file that was opened is that of a name, right in the directory; its path holds a slash
  unless the directory has no name. -/
  opened : ∀ t ∈ ((⟨x.unloadAll, []⟩ : Tried).run uses).tries, ∀ p, t.opened = some p →
    IsName t.name ∧ p = Files.join x.directory (t.name ++ ".so") ∧
      (∀ tree, Files.Tree.locate tree [] p = (x.place? tree).map (· ++ [t.name ++ ".so"])) ∧
      (x.directory ≠ "" → '/' ∈ p.toList)

theorem staysInside (x : Extensions) (uses : List (Files.Tree × Use)) : StaysInside x uses := by
  have start : Tried.Orderly x.directory ⟨x.unloadAll, []⟩ :=
    ⟨rfl, nofun, List.Pairwise.nil, nofun, nofun⟩
  have kept := Tried.orderly_run start uses
  have noted := Tried.extensions_run ⟨x.unloadAll, []⟩ uses
  have named := kept.named
  have sorted := kept.sorted
  have loaded := kept.loaded
  rw [noted] at named sorted loaded
  refine ⟨named, sorted, noted, loaded, fun t ht p hp => ?_⟩
  obtain ⟨hn, rfl⟩ := kept.opened t ht p hp
  exact ⟨hn, rfl, fun tree => locate_path tree x hn, fun hd => slash_mem_join hd _⟩

/-- **Everything required, and as much as can be of what is optional.** Loading succeeds just if
every required name is valid, and loaded or loadable; else it gives the cause of the first that is
not, with the required names before it loaded and nothing tried behind it. Whatever is done with
extensions, only files of valid names are opened, right in the directory. -/
theorem loaded_or_first_refused :
    (∀ tree x, LoadsAll tree x) ∧ ∀ x uses, StaysInside x uses :=
  ⟨loadsAll, staysInside⟩

end ScriptGateway.Engine.Extensions
