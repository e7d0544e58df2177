import Mathlib.Data.List.TakeWhile
import ScriptGateway.Proofs.Site.Variables
/-!
# What a request's target is seen as

A gateway routes by the path of a target, and tells a script the target twice: whole as
`REQUEST_URI`, and its query as `QUERY_STRING`. The three agree, whatever the form of the target,
but for one kind: a target in absolute form that has a query and no path is routed as the root,
while `REQUEST_URI` begins with the question mark.

* `PathAndQuery.read?_written`: a path and a query are all of a text up to its fragment.
* `Target.spelled_read?`: where they stand in the text of a target.
* `TargetViews`, `views_agree`: what is seen of every target but a host alone.
* `pathless_query`: a target whose views do not agree.
-/

namespace ScriptGateway.Http

/-! ## 1. Paths and queries -/

namespace PathAndQuery

/-- Path and query as they are written, with the mark between them. -/
def written (p : PathAndQuery) : List Char :=
  match p.query with
  | some query => p.path ++ '?' :: query
  | none => p.path

theorem not_mem_takeWhile_ne (c : Char) (s : List Char) : c ∉ s.takeWhile (· != c) := by
  intro hm
  have other := List.mem_takeWhile_imp hm
  simp at other

/-- What stands from the first mark on: nothing, or the mark and more. -/
theorem dropWhile_ne_cases (c : Char) (s : List Char) :
    s.dropWhile (· != c) = [] ∨ ∃ rest, s.dropWhile (· != c) = c :: rest := by
  have first := List.head?_dropWhile_not (· != c) s
  cases e : s.dropWhile (· != c) with
  | nil => exact .inl rfl
  | cons d rest =>
    rw [e] at first
    have same : d = c := by simpa using first
    exact .inr ⟨rest, same ▸ rfl⟩

/-- **A path and a query are all of a text up to its fragment**, and the path ends at the first
question mark. -/
theorem read?_written {s : List Char} {p : PathAndQuery} (h : read? s = some p) :
    '?' ∉ p.path ∧ p.written = s.takeWhile (· != '#') := by
  have cut := List.takeWhile_append_dropWhile (p := (· != '?')) (l := s.takeWhile (· != '#'))
  have path := not_mem_takeWhile_ne '?' (s.takeWhile (· != '#'))
  simp only [read?] at h
  split at h
  · cases h
  · rcases dropWhile_ne_cases '?' (s.takeWhile (· != '#')) with e | ⟨query, e⟩
    · rw [e] at h cut
      cases h
      exact ⟨path, (List.append_nil _).symm.trans cut⟩
    · rw [e] at h cut
      simp only at h
      split at h
      · cases h
        exact ⟨path, cut⟩
      · cases h

theorem shown_eq (p : PathAndQuery) :
    p.shown = if p.written = [] then ['/'] else p.written := by
  obtain ⟨path, query⟩ := p
  cases query with
  | some query => simp [shown, written]
  | none => cases path <;> rfl

/-- The query is what follows the first question mark. -/
theorem query_of_shown {p : PathAndQuery} (h : '?' ∉ p.path) :
    p.query.getD [] = (p.shown.dropWhile (· != '?')).drop 1 := by
  obtain ⟨path, query⟩ := p
  have plain : ∀ c ∈ path, (c != '?') = true := by
    intro c hc
    rw [bne_iff_ne]
    intro e
    exact h (e ▸ hc)
  cases query with
  | some query =>
    rw [shown, List.dropWhile_append_of_pos plain]
    rfl
  | none =>
    cases path with
    | nil => rfl
    | cons c path =>
      have all : (c :: path).dropWhile (· != '?') = [] := List.dropWhile_eq_nil_iff.mpr plain
      show [] = ((c :: path).dropWhile (· != '?')).drop 1
      rw [all]
      rfl

/-- No view of a path and a query has a fragment if these have none. -/
theorem plain_views {p : PathAndQuery} (h : '#' ∉ p.written) :
    '#' ∉ p.shownPath ∧ '#' ∉ p.shown ∧ '#' ∉ p.query.getD [] := by
  obtain ⟨path, query⟩ := p
  have path_plain : '#' ∉ shownPath ⟨path, query⟩ := by
    cases query <;> cases path <;> simp_all [written, shownPath]
  refine ⟨path_plain, ?_, ?_⟩
  · rw [shown_eq]
    split
    · decide
    · exact h
  · cases query <;> simp_all [written]

end PathAndQuery

/-! ## 2. Targets -/

namespace Target

/-- The path and the query of a target, unless it is a host alone. -/
def parts? : Target → Option PathAndQuery
  | origin p => some p
  | authority _ => none
  | absolute _ p => some p

/-- Whether a target has a query and no path. -/
def isPathless : Target → Bool
  | absolute _ ⟨[], some _⟩ => true
  | _ => false

/-- What is seen of a target that has these parts. -/
theorem views_of_parts? {t : Target} {p : PathAndQuery} (h : t.parts? = some p) :
    t.path = String.ofList p.shownPath ∧ t.query? = p.query.map String.ofList ∧
      t.pathAndQuery? = some (String.ofList p.shown) := by
  cases t with
  | authority a => cases h
  | origin q =>
    cases h
    exact ⟨rfl, rfl, rfl⟩
  | absolute a q =>
    cases h
    exact ⟨rfl, rfl, rfl⟩

/-- What stands before the path: nothing, or a scheme and the authority. -/
def IsFront (t : Target) (front : List Char) : Prop :=
  match t.authority? with
  | some a => ∃ scheme, front = scheme ++ [':', '/', '/'] ++ a.text
  | none => front = []

/-- **Where the path and the query of a target stand in its text**: after the scheme and the
authority, if there are any, and before the fragment, if there is one. -/
structure Spelled (text : List Char) (t : Target) (p : PathAndQuery) : Prop where
  place : ∃ front fragment, text = front ++ p.written ++ fragment ∧ t.IsFront front ∧
    (fragment = [] ∨ fragment.head? = some '#')
  path : '?' ∉ p.path
  plain : '#' ∉ p.written
  /-- Only a target with an authority can be without a path. -/
  origin : t = .origin p → p.path ≠ []

theorem spelled_of_read? (front : List Char) {s : List Char} {t : Target} {p : PathAndQuery}
    (h : PathAndQuery.read? s = some p) (hf : t.IsFront front)
    (origin : t = .origin p → p.path ≠ []) : Spelled (front ++ s) t p := by
  obtain ⟨path, written⟩ := PathAndQuery.read?_written h
  refine ⟨⟨front, s.dropWhile (· != '#'), ?_, hf, ?_⟩, path, ?_, origin⟩
  · rw [written, List.append_assoc, List.takeWhile_append_dropWhile]
  · rcases PathAndQuery.dropWhile_ne_cases '#' s with e | ⟨rest, e⟩
    · exact .inl e
    · exact .inr (e ▸ rfl)
  · rw [written]
    exact PathAndQuery.not_mem_takeWhile_ne '#' s

theorem exists_of_afterScheme? {s rest : List Char} {short : Bool}
    (h : afterScheme? s = some (short, rest)) :
    ∃ scheme, s = scheme ++ [':', '/', '/'] ++ rest := by
  simp only [afterScheme?] at h
  split at h
  · next e =>
    cases h
    refine ⟨s.take (s.takeWhile isSchemeChar).length, ?_⟩
    have cut := List.take_append_drop (s.takeWhile isSchemeChar).length s
    rw [e] at cut
    rw [List.append_assoc]
    exact cut.symm
  · cases h

theorem text_of_read? {s : List Char} {a : Authority} (h : Authority.read? s = some a) :
    a.text = s := by
  unfold Authority.read? at h
  split at h
  · cases h
  · cases h
    rfl

/-- A target in absolute form. -/
theorem spelled_readFull? {s : List Char} {t : Target} {p : PathAndQuery}
    (h : readFull? s = some t) (hp : t.parts? = some p) : Spelled s t p := by
  unfold readFull? at h
  split at h
  · obtain ⟨a, -, rfl⟩ := Option.map_eq_some_iff.mp h
    cases hp
  · cases h
  · next rest e =>
    obtain ⟨a, ha, h⟩ := Option.bind_eq_some_iff.mp h
    obtain ⟨q, hq, h⟩ := Option.bind_eq_some_iff.mp h
    cases h
    cases hp
    obtain ⟨scheme, hs⟩ := exists_of_afterScheme? e
    have front : IsFront (.absolute a p) (scheme ++ [':', '/', '/'] ++ a.text) := ⟨scheme, rfl⟩
    have place := spelled_of_read? _ hq front nofun
    rw [text_of_read? ha, List.append_assoc, List.takeWhile_append_dropWhile, ← hs] at place
    exact place

/-- A target that begins with a slash. -/
theorem spelled_origin {rest : List Char} {p : PathAndQuery}
    (h : PathAndQuery.read? ('/' :: rest) = some p) :
    Spelled ('/' :: rest) (.origin p) p := by
  refine spelled_of_read? [] h rfl fun _ none => ?_
  obtain ⟨-, written⟩ := PathAndQuery.read?_written h
  rw [PathAndQuery.written, none] at written
  cases hquery : p.query <;> simp [hquery] at written

/-- **The path and the query of every target stand in its text.** -/
theorem spelled_read? {text : String} {t : Target} {p : PathAndQuery} (h : read? text = some t)
    (hp : t.parts? = some p) : Spelled text.toList t p := by
  unfold read? at h
  split at h
  · cases h
  · split at h
    · cases h
    · next e =>
      cases h
      cases hp
      rw [e]
      exact ⟨⟨[], [], rfl, rfl, .inl rfl⟩, by decide, by decide, fun _ => by decide⟩
    · next rest e =>
      obtain ⟨q, hq, rfl⟩ := Option.map_eq_some_iff.mp h
      cases hp
      rw [e]
      exact spelled_origin hq
    · exact spelled_readFull? h hp

end Target

end ScriptGateway.Http

namespace ScriptGateway.Site

open Http (Target PathAndQuery)

/-! ## 3. Views -/

/-- A path, and a query after a question mark if there is one. -/
def withQuery (path : String) : Option String → String
  | some query => path ++ "?" ++ query
  | none => path

/-- **What is seen of a target**: the path that a gateway routes by, and what it tells a script as
`REQUEST_URI` and as `QUERY_STRING`. -/
structure TargetViews (text : String) (t : Target) (uri query : String) : Prop where
  /-- `REQUEST_URI` is what is written after the authority and before the fragment; a single slash
  stands for nothing. -/
  written : ∃ front middle fragment, text.toList = front ++ middle ++ fragment ∧
    t.IsFront front ∧ (fragment = [] ∨ fragment.head? = some '#') ∧
    uri.toList = if middle = [] then ['/'] else middle
  /-- `QUERY_STRING` is the query of the target, and what follows the first question mark of
  `REQUEST_URI`. -/
  asked : query = t.query?.getD ""
  marked : query.toList = (uri.toList.dropWhile (· != '?')).drop 1
  /-- No view has a fragment. -/
  plain : ∀ view ∈ [t.path, uri, query], '#' ∉ view.toList
  /-- `REQUEST_URI` is the path, and the query after a question mark if there is one, exactly if
  the target has a path or no query. -/
  agree : uri = withQuery t.path t.query? ↔ t.isPathless = false
  /-- A target with a query and no path is routed as the root. -/
  pathless : t.isPathless = true → t.path = "/" ∧ uri = "?" ++ query

theorem last?_requestUri (s : Site) (r : Http.Request) (body : Bytes) (peer : Peer)
    (now : Duration) : last? (s.vars r body peer now) "REQUEST_URI" =
      some (r.target.pathAndQuery?.getD "/") :=
  last?_own s r body peer now (v := ("REQUEST_URI", r.target.pathAndQuery?.getD "/"))
    (by simp [ownVariables, commonVariables])

theorem last?_queryString (s : Site) (r : Http.Request) (body : Bytes) (peer : Peer)
    (now : Duration) : last? (s.vars r body peer now) "QUERY_STRING" =
      some (r.target.query?.getD "") :=
  last?_own s r body peer now (v := ("QUERY_STRING", r.target.query?.getD ""))
    (by simp [ownVariables, commonVariables])

/-- **A path and a query are shown as such exactly if there is a path or no query.** -/
theorem shown_eq_withQuery_iff (p : PathAndQuery) :
    String.ofList p.shown = withQuery (String.ofList p.shownPath) (p.query.map String.ofList) ↔
      p.path ≠ [] ∨ p.query = none := by
  obtain ⟨path, query⟩ := p
  cases query with
  | none => exact iff_of_true rfl (.inr rfl)
  | some query =>
    rw [← String.toList_inj]
    cases path <;> simp [withQuery, PathAndQuery.shown, PathAndQuery.shownPath]

theorem exists_query_of_isPathless {t : Target} {p : PathAndQuery} (hp : t.parts? = some p)
    (h : t.isPathless = true) : ∃ query, p = ⟨[], some query⟩ := by
  unfold Target.isPathless at h
  split at h
  · next query =>
    cases hp
    exact ⟨query, rfl⟩
  · cases h

theorem isPathless_eq_false {t : Target} {p : PathAndQuery} (hp : t.parts? = some p)
    (origin : t = .origin p → p.path ≠ []) :
    t.isPathless = false ↔ p.path ≠ [] ∨ p.query = none := by
  cases t with
  | authority a => cases hp
  | origin q =>
    cases hp
    exact ⟨fun _ => .inl (origin rfl), fun _ => rfl⟩
  | absolute a q =>
    cases hp
    obtain ⟨path, query⟩ := p
    cases path <;> cases query <;> simp [Target.isPathless]

/-- **The views of a target**, in whatever form it was sent, unless it is a host alone. -/
theorem views_agree (s : Site) (r : Http.Request) (text : String)
    (accepted : Target.read? text = some r.target) (form : ∀ a, r.target ≠ .authority a)
    (body : Bytes) (peer : Peer) (now : Duration) :
    ∃ uri query, last? (s.vars r body peer now) "REQUEST_URI" = some uri ∧
      last? (s.vars r body peer now) "QUERY_STRING" = some query ∧
      TargetViews text r.target uri query := by
  refine ⟨_, _, last?_requestUri s r body peer now, last?_queryString s r body peer now, ?_⟩
  obtain ⟨p, hp⟩ : ∃ p, r.target.parts? = some p := by
    cases e : r.target with
    | authority a => exact absurd e (form a)
    | origin p => exact ⟨p, rfl⟩
    | absolute a p => exact ⟨p, rfl⟩
  obtain ⟨⟨front, fragment, place, isFront, ends⟩, path, plain, origin⟩ :=
    Target.spelled_read? accepted hp
  obtain ⟨shownPath, query, shown⟩ := Target.views_of_parts? hp
  have agree := isPathless_eq_false hp origin
  rw [shown, Option.getD_some]
  refine ⟨⟨front, p.written, fragment, place, isFront, ends, ?_⟩, rfl, ?_, ?_, ?_, ?_⟩
  · rw [String.toList_ofList, PathAndQuery.shown_eq]
  · have marked := PathAndQuery.query_of_shown path
    rw [String.toList_ofList, ← marked, query]
    cases p.query <;> simp
  · obtain ⟨inPath, inUri, inQuery⟩ := PathAndQuery.plain_views plain
    intro view hm
    rw [shownPath, query] at hm
    simp only [List.mem_cons, List.not_mem_nil, or_false] at hm
    rcases hm with rfl | rfl | rfl
    · rwa [String.toList_ofList]
    · rwa [String.toList_ofList]
    · cases e : p.query <;> simp_all
  · rw [shownPath, query, shown_eq_withQuery_iff, agree]
  · intro pathless
    obtain ⟨rest, rfl⟩ := exists_query_of_isPathless hp pathless
    rw [shownPath, query]
    refine ⟨rfl, ?_⟩
    rw [← String.toList_inj]
    simp [PathAndQuery.shown]

/-- The variables of a request for a target. -/
def targetVars (t : Target) : List Script.Variable :=
  Executor.formSite.vars { Executor.sentForm with target := t } [] Executor.loopback
    { seconds := 0, nanos := 0 }

/-- A target in absolute form, with a question mark in its query. -/
def markedTarget : Target :=
  .absolute ⟨"h".toList⟩ { path := "/a".toList, query := some "b?c".toList }

/-- The views of such a target agree, and its fragment is not among them. -/
theorem views_agree_marked :
    Target.read? "http://h/a?b?c#d" = some markedTarget ∧ (∀ a, markedTarget ≠ .authority a) ∧
      ∃ uri query, last? (targetVars markedTarget) "REQUEST_URI" = some uri ∧
        last? (targetVars markedTarget) "QUERY_STRING" = some query ∧
        uri = "/a?b?c" ∧ query = "b?c" := by
  have accepted : Target.read? "http://h/a?b?c#d" = some markedTarget := by decide +kernel
  have form : ∀ a, markedTarget ≠ .authority a := nofun
  obtain ⟨uri, query, seenUri, seenQuery, views⟩ := views_agree Executor.formSite
    { Executor.sentForm with target := markedTarget } "http://h/a?b?c#d" accepted form []
    Executor.loopback { seconds := 0, nanos := 0 }
  have whole : withQuery markedTarget.path markedTarget.query? = "/a?b?c" := by decide +kernel
  have part : markedTarget.query?.getD "" = "b?c" := by decide +kernel
  exact ⟨accepted, form, uri, query, seenUri, seenQuery, (views.agree.mpr rfl).trans whole,
    views.asked.trans part⟩

/-- A target in absolute form with a query and no path. -/
def pathlessTarget : Target :=
  .absolute ⟨"host".toList⟩ { path := [], query := some "q".toList }

/-- **A target whose views do not agree**: it is routed as `/`, its query is `q`, and `REQUEST_URI`
is not `/?q`. -/
theorem pathless_query :
    Target.read? "http://host?q" = some pathlessTarget ∧ pathlessTarget.path = "/" ∧
      last? (targetVars pathlessTarget) "QUERY_STRING" = some "q" ∧
      last? (targetVars pathlessTarget) "REQUEST_URI" = some "?q" ∧
      withQuery pathlessTarget.path pathlessTarget.query? = "/?q" := by
  refine ⟨by decide +kernel, by decide +kernel, ?_, ?_, by decide +kernel⟩
  · rw [targetVars, last?_queryString]
    decide +kernel
  · rw [targetVars, last?_requestUri]
    decide +kernel

end ScriptGateway.Site
