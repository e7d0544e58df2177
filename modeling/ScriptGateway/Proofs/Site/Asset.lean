import ScriptGateway.Proofs.Files.Tree
import ScriptGateway.Proofs.Text.Percent
import ScriptGateway.Proofs.Text.Utf8
import ScriptGateway.Site.Asset
/-!
# Which file a path leads to

The extension is judged on the decoded text, while the place of the file is put together from
its segments. Both look at the same last segment, so that what is found is what was judged.

* `IsAssetName`: a name that ends in one of the extensions.
* `Leads`: what a path has to be to lead along segments; `names?_eq_some_iff` says that it is all.
* `locate_pathOf`: the path of a file that was found leads to that file.
* `resolve_exact`: the file for a path, and that it lies below the root.
* `serve_of_resolve?`: the response with a file that was found.
-/

namespace ScriptGateway.Asset

open Files (Location Tree parentSegment segments)

/-! ## 1. Extensions -/

/-- A name with a stem and, after its last point, one of the extensions in any case. -/
def IsAssetName (name : List Char) : Prop :=
  ∃ stem e, name = stem ++ '.' :: e ∧ stem ≠ [] ∧ '.' ∉ e ∧
    ∃ known ∈ extensions, e.map Text.asciiLower = known.toList

/-- The extensions are listed in small letters. -/
theorem extensions_lower : ∀ known ∈ extensions,
    known.toList.map Text.asciiLower = known.toList := by
  decide +kernel

theorem isStaticExtension_iff {e : List Char} :
    isStaticExtension e = true ↔ ∃ known ∈ extensions, e.map Text.asciiLower = known.toList := by
  unfold isStaticExtension Text.eqIgnoringCase
  rw [List.any_eq_true]
  constructor
  · rintro ⟨known, hk, h⟩
    rw [beq_iff_eq, extensions_lower known hk] at h
    exact ⟨known, hk, h.symm⟩
  · rintro ⟨known, hk, h⟩
    refine ⟨known, hk, ?_⟩
    rw [beq_iff_eq, extensions_lower known hk, h]

/-- A path without parent segments is static if it ends in the name of an asset. -/
theorem isStatic_iff {path : List Char} (h : parentSegment ∉ segments path) :
    isStatic path = true ↔ ∃ name, (segments path).getLast? = some name ∧ IsAssetName name := by
  unfold isStatic
  constructor
  · intro hs
    cases he : Files.extension? path with
    | none => simp [he] at hs
    | some e =>
      rw [he] at hs
      obtain ⟨stem, hstem, hpoint, hlast⟩ := (Files.extension?_eq_some_iff h).mp he
      exact ⟨_, hlast, stem, e, rfl, hstem, hpoint, isStaticExtension_iff.mp hs⟩
  · rintro ⟨_, hlast, stem, e, rfl, hstem, hpoint, known⟩
    rw [(Files.extension?_eq_some_iff h).mpr ⟨stem, hstem, hpoint, hlast⟩]
    exact isStaticExtension_iff.mpr known

theorem extensions_pointless : ∀ known ∈ extensions, '.' ∉ known.toList := by
  decide +kernel

/-- Two texts without a point are the same if both follow the last point of a name. -/
theorem eq_of_suffixes {name e e' : List Char} (he : '.' ∉ e) (he' : '.' ∉ e')
    (h : '.' :: e <:+ name) (h' : '.' :: e' <:+ name) : e = e' := by
  rcases List.suffix_or_suffix_of_suffix h h' with hs | hs <;>
    rcases List.suffix_cons_iff.mp hs with heq | hs
  · exact (List.cons.inj heq).2
  · exact absurd (hs.mem List.mem_cons_self) he'
  · exact (List.cons.inj heq).2.symm
  · exact absurd (hs.mem List.mem_cons_self) he

/-- **The name of an asset has no other extension**, in any case. -/
theorem IsAssetName.not_suffix {name : List Char} (h : IsAssetName name) {other : String}
    (point : '.' ∉ other.toList) (unlisted : other ∉ extensions) :
    ¬ '.' :: other.toList <:+ name.map Text.asciiLower := by
  obtain ⟨stem, e, rfl, -, -, known, hk, hl⟩ := h
  intro hs
  have ends : '.' :: known.toList <:+ (stem ++ '.' :: e).map Text.asciiLower := by
    rw [List.map_append, List.map_cons, hl]
    exact List.suffix_append _ _
  have same := eq_of_suffixes point (extensions_pointless known hk) hs ends
  rw [String.toList_inj.mp same] at unlisted
  exact unlisted hk

/-! ## 2. Paths -/

/-- What the path of a request has to be for its segments to name an asset: it is decoded to a
text without NUL, none of whose segments is the parent segment. -/
structure Leads (path : String) (text : List Char) : Prop where
  decodes : Text.Decodes (Bytes.ofText path) (text.flatMap String.utf8EncodeChar)
  noNul : '\x00' ∉ text
  noParent : parentSegment ∉ segments text
  isAsset : ∃ name, (segments text).getLast? = some name ∧ IsAssetName name

/-- The names that a text leads along. -/
def along (text : List Char) : List String :=
  (segments text).map String.ofList

/-- **What leads to an asset.** -/
theorem names?_eq_some_iff {path : String} {names : List String} :
    names? path = some names ↔ ∃ text, Leads path text ∧ names = along text := by
  constructor
  · intro h
    obtain ⟨text, hd, h⟩ := Option.bind_eq_some_iff.mp h
    split at h
    · simp at h
    · next judged =>
      simp only [] at h
      split at h
      · simp at h
      · next parent =>
        obtain ⟨nul, static⟩ : '\x00' ∉ text ∧ isStatic text = true := by simpa using judged
        have noParent : parentSegment ∉ segments text := by simpa using parent
        -- the extension was judged on the whole text, which ends in its last segment
        refine ⟨text, ⟨?_, nul, noParent, (isStatic_iff noParent).mp static⟩,
          (Option.some.inj h).symm⟩
        rw [← Text.Utf8.encode_eq_flatMap, Text.decodes_iff]
        exact (Text.Utf8.decode?_eq_some_iff.mp hd).symm
  · rintro ⟨text, leads, rfl⟩
    have decoded := leads.decodes
    rw [← Text.Utf8.encode_eq_flatMap, Text.decodes_iff] at decoded
    have judged : isStatic text = true := (isStatic_iff leads.noParent).mpr leads.isAsset
    refine Option.bind_eq_some_iff.mpr ⟨text, ?_, ?_⟩
    · rw [decoded, Text.Utf8.decode?_eq_some_iff]
    · simp [leads.noNul, judged, leads.noParent, along]

/-- **The file for a path is what its segments name below the root.** -/
theorem resolve?_eq_some_iff {tree : Tree} {root p : Location} {path : String} :
    resolve? tree root path = some p ↔
      ∃ text, Leads path text ∧ tree.isFile (root ++ along text) = true ∧
        p = root ++ along text := by
  unfold resolve?
  rw [Option.bind_eq_bind, Option.bind_eq_some_iff]
  constructor
  · rintro ⟨names, hn, h⟩
    obtain ⟨text, leads, rfl⟩ := names?_eq_some_iff.mp hn
    split at h
    · next file => exact ⟨text, leads, file, (Option.some.inj h).symm⟩
    · simp at h
  · rintro ⟨text, leads, file, rfl⟩
    exact ⟨along text, names?_eq_some_iff.mpr ⟨text, leads, rfl⟩, if_pos file⟩

/-! ## 3. The path of a file -/

/-- A name that is a segment of a path and not the parent segment. -/
def IsPlain (name : String) : Prop :=
  name ≠ "" ∧ name ≠ "." ∧ name ≠ ".." ∧ '/' ∉ name.toList ∧ '\x00' ∉ name.toList

theorem Leads.isPlain {path : String} {text : List Char} (leads : Leads path text) :
    ∀ name ∈ along text, IsPlain name := by
  intro name hn
  obtain ⟨s, hs, rfl⟩ := List.mem_map.mp hn
  obtain ⟨empty, point, slash, chars⟩ := Files.mem_segments hs
  have parent : s ≠ parentSegment := by
    rintro rfl
    exact leads.noParent hs
  have nul : '\x00' ∉ s := fun hc => leads.noNul (chars _ hc)
  have differs : ∀ t : List Char, s ≠ t → String.ofList s ≠ String.ofList t := by
    intro t ht heq
    exact ht (String.ofList_injective heq)
  unfold IsPlain
  rw [String.toList_ofList]
  exact ⟨differs [] empty, differs ['.'] point, differs ['.', '.'] parent, slash, nul⟩

theorem IsPlain.isSegment {name : String} (h : IsPlain name) :
    '/' ∉ name.toList ∧ name.toList ≠ [] ∧ name.toList ≠ ['.'] ∧ name.toList ≠ parentSegment := by
  obtain ⟨empty, point, parent, slash, -⟩ := h
  refine ⟨slash, fun hn => empty ?_, fun hn => point ?_, fun hn => parent ?_⟩ <;>
    exact String.toList_inj.mp hn

theorem segments_pathOf (documentRoot : String) {names : List String}
    (plain : ∀ name ∈ names, IsPlain name) :
    segments (pathOf documentRoot names).toList =
      segments documentRoot.toList ++ names.map String.toList := by
  induction names generalizing documentRoot with
  | nil => simp [pathOf]
  | cons name names ih =>
    obtain ⟨slash, empty, point, -⟩ := (plain name List.mem_cons_self).isSegment
    have joined := Files.segments_join documentRoot slash empty point
    rw [String.ofList_toList] at joined
    show segments (pathOf (Files.join documentRoot name) names).toList = _
    rw [ih _ fun name hn => plain name (List.mem_cons_of_mem _ hn), joined, List.map_cons,
      ← List.append_cons]

/-- What follows the last slash of a path is its last name. -/
theorem lastPiece_pathOf (documentRoot : String) (names : List String) {name : String}
    (plain : IsPlain name) :
    ((pathOf documentRoot (names ++ [name])).toList.splitOn '/').getLast? = some name.toList := by
  have piece := Files.lastPiece_join (pathOf documentRoot names) plain.isSegment.1
  rw [String.ofList_toList] at piece
  unfold pathOf at piece ⊢
  rwa [List.foldl_append]

/-- **The path of a file leads to that file.** -/
theorem locate_pathOf {tree : Tree} (sound : tree.Sound) {from_ root : Location}
    {documentRoot : String} (at_ : tree.locate from_ documentRoot = some root)
    {names : List String} {name : String} (plain : ∀ n ∈ names ++ [name], IsPlain n)
    (file : tree.isFile (root ++ (names ++ [name])) = true) :
    tree.locate from_ (pathOf documentRoot (names ++ [name])) =
      some (root ++ (names ++ [name])) := by
  have texts : ((names ++ [name]).map String.toList).map String.ofList = names ++ [name] := by
    simp [Function.comp_def]
  have parent : parentSegment ∉ (names ++ [name]).map String.toList := by
    intro hp
    obtain ⟨n, hn, heq⟩ := List.mem_map.mp hp
    exact (plain n hn).isSegment.2.2.2 heq
  have last := plain name (by simp)
  obtain ⟨-, empty, point, -⟩ := last.isSegment
  rw [Files.Tree.locate_of_lastPiece (lastPiece_pathOf _ _ last) empty point,
    segments_pathOf _ plain, Files.Tree.follow_append, Files.Tree.follow_of_locate at_,
    Option.bind_some, Files.Tree.follow_of_isFile sound parent, texts]
  rwa [texts]

/-! ## 4. The file for a path -/

/-- **Files are found below the root only, and exactly those that a path names.** The name of such
a file has no extension that is not listed, such as that of a script, and its path under the
document root leads to it. -/
theorem resolve_exact (tree : Tree) (root p : Location) (path : String) :
    (resolve? tree root path = some p ↔
      ∃ text, Leads path text ∧ tree.isFile (root ++ along text) = true ∧
        p = root ++ along text) ∧
    (resolve? tree root path = some p →
      ∃ names name, p = root ++ (names ++ [name]) ∧ (∀ n ∈ names ++ [name], IsPlain n) ∧
        IsAssetName name.toList ∧
        (∀ other, '.' ∉ other.toList → other ∉ extensions →
          ¬ '.' :: other.toList <:+ name.toList.map Text.asciiLower) ∧
        ∀ from_ documentRoot, tree.Sound → tree.locate from_ documentRoot = some root →
          tree.locate from_ (pathOf documentRoot (names ++ [name])) = some p) := by
  refine ⟨resolve?_eq_some_iff, fun found => ?_⟩
  obtain ⟨text, leads, file, rfl⟩ := resolve?_eq_some_iff.mp found
  obtain ⟨s, hs, asset⟩ := leads.isAsset
  obtain ⟨ss, hss⟩ := List.getLast?_eq_some_iff.mp hs
  have split : along text = ss.map String.ofList ++ [String.ofList s] := by
    rw [along, hss, List.map_append, List.map_singleton]
  have plain := leads.isPlain
  rw [split] at plain file
  refine ⟨ss.map String.ofList, String.ofList s, by rw [split], plain, ?_, ?_, ?_⟩
  · rwa [String.toList_ofList]
  · intro other point unlisted
    rw [String.toList_ofList]
    exact asset.not_suffix point unlisted
  · intro from_ documentRoot sound at_
    rw [locate_pathOf sound at_ plain file, split]

/-- A site with a style sheet in a directory, and a script. -/
def shop : Tree :=
  { entries :=
      [(["srv", "shop", "a b", "x.CSS"], .file [1]), (["srv", "shop", "i.php"], .file [2])] }

theorem resolve_exact_shop :
    resolve? shop ["srv", "shop"] "//a%20b/./x.C%53S/" = some ["srv", "shop", "a b", "x.CSS"] ∧
      (∃ text, Leads "//a%20b/./x.C%53S/" text ∧ along text = ["a b", "x.CSS"]) ∧
      shop.locate [] (pathOf "/srv/shop/" ["a b", "x.CSS"]) =
        some ["srv", "shop", "a b", "x.CSS"] := by
  have found : resolve? shop ["srv", "shop"] "//a%20b/./x.C%53S/" =
      some ["srv", "shop", "a b", "x.CSS"] := by
    decide +kernel
  obtain ⟨exact_, below⟩ := resolve_exact shop ["srv", "shop"] ["srv", "shop", "a b", "x.CSS"]
    "//a%20b/./x.C%53S/"
  obtain ⟨text, leads, -, here⟩ := exact_.mp found
  obtain ⟨names, name, split, -, -, -, path⟩ := below found
  have named : ["a b", "x.CSS"] = along text := by simpa using here
  have names_ : ["a b", "x.CSS"] = names ++ [name] := by simpa using split
  refine ⟨found, ⟨text, leads, named.symm⟩, ?_⟩
  have located := path [] "/srv/shop/" (by decide +kernel) (by decide +kernel)
  rwa [← names_] at located

/-! ## 5. What is sent -/

/-- **A file that was found is sent as it is**, whatever kind of file it is. -/
theorem serve_of_resolve? {tree : Tree} {root file : Location} {path : String}
    (found : resolve? tree root path = some file) (cacheControl : Option String) :
    ∃ content, tree.content? file = some content ∧
      (serve tree cacheControl file).status = 200 ∧
      (serve tree cacheControl file).body = content := by
  obtain ⟨text, -, there, rfl⟩ := resolve?_eq_some_iff.mp found
  rw [← Tree.isSome_content?] at there
  obtain ⟨content, held⟩ := Option.isSome_iff_exists.mp there
  refine ⟨content, held, ?_⟩
  unfold serve
  rw [held]
  cases cacheControl <;> exact ⟨rfl, rfl⟩

end ScriptGateway.Asset
