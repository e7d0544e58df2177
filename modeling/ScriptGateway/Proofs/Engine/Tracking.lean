import Mathlib.Data.List.Induction
import ScriptGateway.Engine.Lifecycle
import ScriptGateway.Proofs.Engine.Extensions
/-!
# What a stopped engine keeps track of

Stopping an engine forgets its extensions: it is then as if it had never been started. A start that
fails at a required extension stops the interpreter and forgets nothing. What it loaded before is
still tracked, and the next start takes it for loaded and does not look at its file.

* `Engine.operate`, `Engine.run`: starts and stops, one after another.
* `Outcome`: the rules of what one of them does to an engine, `outcome_operate`.
* `StoppedTracks`, `stopped_tracks`: what is tracked while the engine is stopped.
* `left_tracked`: a start that fails, and one that succeeds without a required file.
-/

namespace ScriptGateway.Engine

/-! ## 1. Starts and stops -/

/-- A start, on these files and with this answer of the interpreter, or a stop. -/
inductive Operation where
  | start (tree : Files.Tree) (answer : Except String Unit)
  | stop

/-- The engine after a start or a stop. -/
def operate (e : Engine) : Operation → Engine
  | .start tree answer => (e.startup tree answer).engine
  | .stop => e.shutdown.engine

/-- The engine after starts and stops. -/
def run (e : Engine) (ops : List Operation) : Engine :=
  ops.foldl operate e

/-- The extensions that an engine takes for loaded. -/
def tracked (e : Engine) : List String :=
  (e.extensions.map Extensions.loaded).getD []

/-- An engine with extensions of which these are loaded. -/
def holding (version : String) (backend : Backend) (x : Extensions) (loaded : List String)
    (started : Bool) : Engine :=
  { version, bridge := .ofBackend backend, extensions := some { x with loaded }, started }

@[simp] theorem started_holding (version : String) (backend : Backend) (x : Extensions)
    (loaded : List String) (started : Bool) :
    (holding version backend x loaded started).started = started := rfl

@[simp] theorem tracked_holding (version : String) (backend : Backend) (x : Extensions)
    (loaded : List String) (started : Bool) :
    (holding version backend x loaded started).tracked = loaded := rfl

/-- An engine before its first start. -/
def configured (version : String) (backend : Backend) (x : Extensions) : Engine :=
  holding version backend x [] false

theorem run_append (e : Engine) (ops ops' : List Operation) :
    e.run (ops ++ ops') = (e.run ops).run ops' :=
  List.foldl_append

theorem run_concat (e : Engine) (ops : List Operation) (op : Operation) :
    e.run (ops ++ [op]) = (e.run ops).operate op :=
  e.run_append ops [op]

section Outcome

variable (version : String) (backend : Backend) (x : Extensions)

/-- **What a start or a stop does**: to what is loaded, and to whether the engine is started. -/
inductive Outcome : (loaded : List String) → (started : Bool) → Operation →
    (loaded' : List String) → (started' : Bool) → Prop where
  /-- A stop of an engine that is started forgets everything. -/
  | stop (loaded : List String) : Outcome loaded true .stop [] false
  | idle (loaded : List String) : Outcome loaded false .stop loaded false
  | already (loaded : List String) (tree : Files.Tree) (answer : Except String Unit) :
      Outcome loaded true (.start tree answer) loaded true
  /-- Without an interpreter nothing is loaded. -/
  | fallback (loaded : List String) (tree : Files.Tree) (answer : Except String Unit)
      (hb : backend = .fallback) : Outcome loaded false (.start tree answer) loaded true
  | down (loaded : List String) (tree : Files.Tree) (message : String) {name : String}
      (hb : backend = .interpreter name) :
      Outcome loaded false (.start tree (.error message)) loaded false
  | failed (loaded loaded' : List String) (tree : Files.Tree) {name : String}
      (hb : backend = .interpreter name)
      (hu : ¬ ∀ n ∈ x.required, Extensions.isAvailable tree { x with loaded } n = true)
      (hl : ∀ n, n ∈ loaded' ↔
        n ∈ loaded ∨ n ∈ x.required.takeWhile (Extensions.isAvailable tree { x with loaded })) :
      Outcome loaded false (.start tree (.ok ())) loaded' false
  | succeeded (loaded loaded' : List String) (tree : Files.Tree) {name : String}
      (hb : backend = .interpreter name)
      (ha : ∀ n ∈ x.required, Extensions.isAvailable tree { x with loaded } n = true)
      (hl : ∀ n, n ∈ loaded' ↔ n ∈ loaded ∨ n ∈ x.required ∨
        n ∈ x.optional ∧ Extensions.isAvailable tree { x with loaded } n = true) :
      Outcome loaded false (.start tree (.ok ())) loaded' true

/-- A start loads the extensions once the interpreter came up. -/
theorem outcome_startExtensions {name : String} (hb : backend = .interpreter name)
    (loaded : List String) (tree : Files.Tree) :
    ∃ loaded' started',
      ((holding version backend x loaded false).startExtensions tree).engine =
        holding version backend x loaded' started' ∧
      Outcome backend x loaded false (.start tree (.ok ())) loaded' started' := by
  have loading := Extensions.grown_loadAll tree { x with loaded }
  unfold startExtensions
  simp only [holding]
  split at loading
  · next ha =>
    obtain ⟨unfailed, grown⟩ := loading
    rw [unfailed, grown.setup]
    refine ⟨_, true, rfl, .succeeded loaded _ tree hb ha fun n => ?_⟩
    rw [grown.loaded, List.mem_append, List.mem_filter]
  · next hu =>
    obtain ⟨failed, grown⟩ := loading
    obtain ⟨cause, hc⟩ := Option.ne_none_iff_exists'.mp failed
    rw [hc, grown.setup]
    exact ⟨_, false, rfl, .failed loaded _ tree hb hu grown.loaded⟩

/-- **Whatever a start or a stop does is one of the rules.** -/
theorem outcome_operate (loaded : List String) (started : Bool) (op : Operation) :
    ∃ loaded' started',
      (holding version backend x loaded started).operate op =
        holding version backend x loaded' started' ∧
      Outcome backend x loaded started op loaded' started' := by
  cases op with
  | stop =>
    cases started with
    | true => exact ⟨[], false, rfl, .stop loaded⟩
    | false => exact ⟨loaded, false, rfl, .idle loaded⟩
  | start tree answer =>
    cases started with
    | true => exact ⟨loaded, true, rfl, .already loaded tree answer⟩
    | false =>
      cases hb : backend with
      | fallback => exact ⟨loaded, true, rfl, .fallback loaded tree answer rfl⟩
      | interpreter name =>
        cases answer with
        | error message => exact ⟨loaded, false, rfl, .down loaded tree message rfl⟩
        | ok _ => exact outcome_startExtensions version (.interpreter name) x rfl loaded tree

/-- Starts and stops change nothing but what is loaded and whether the engine is started. -/
theorem run_configured (ops : List Operation) :
    ∃ loaded started, (configured version backend x).run ops =
      holding version backend x loaded started := by
  induction ops using List.reverseRecOn with
  | nil => exact ⟨[], false, rfl⟩
  | append_singleton ops op ih =>
    obtain ⟨loaded, started, h⟩ := ih
    obtain ⟨loaded', started', h', -⟩ := outcome_operate version backend x loaded started op
    exact ⟨loaded', started', by rw [run_concat, h, h']⟩

/-- A stop of an engine that is started leaves it as it was before its first start. -/
theorem run_stop {ops : List Operation}
    (hs : ((configured version backend x).run ops).started = true) :
    (configured version backend x).run (ops ++ [.stop]) = configured version backend x := by
  obtain ⟨loaded, started, h⟩ := run_configured version backend x ops
  rw [h] at hs
  obtain rfl : started = true := hs
  rw [run_concat, h]
  rfl

/-! ## 2. While the engine stays stopped -/

/-- The first of the required extensions does not open. -/
def FailsAtOnce (tree : Files.Tree) : Prop :=
  ∀ n, x.required.head? = some n → x.opens tree n = false

theorem takeWhile_eq_nil_iff_failsAtOnce {tree : Files.Tree} :
    x.required.takeWhile (Extensions.isAvailable tree { x with loaded := [] }) = [] ↔
      FailsAtOnce x tree := by
  rw [Extensions.isAvailable_unloaded]
  unfold FailsAtOnce
  cases x.required with
  | nil => exact ⟨fun _ n hn => (nomatch hn), fun _ => rfl⟩
  | cons name names =>
    rw [List.takeWhile_cons]
    cases ho : x.opens tree name with
    | true => simp [ho]
    | false => simp [ho]

/-- Every start at which the interpreter came up failed at the first required extension. -/
def FailedAtOnce (ops : List Operation) : Prop :=
  ∀ p tree, p ++ [.start tree (.ok ())] <+: ops → FailsAtOnce x tree

theorem failedAtOnce_concat {ops : List Operation} {op : Operation} :
    FailedAtOnce x (ops ++ [op]) ↔
      FailedAtOnce x ops ∧ ∀ tree, op = .start tree (.ok ()) → FailsAtOnce x tree := by
  constructor
  · intro h
    refine ⟨fun p tree hp => h p tree (List.prefix_concat_iff.mpr (.inr hp)), ?_⟩
    rintro tree rfl
    exact h ops tree (List.prefix_refl _)
  · rintro ⟨h, ho⟩ p tree hp
    rcases List.prefix_concat_iff.mp hp with same | earlier
    · obtain ⟨-, last⟩ := List.append_inj' same rfl
      exact ho tree (List.singleton_inj.mp last).symm
    · exact h p tree earlier

/-- **An engine that was never started since tracks nothing just if every start failed at once.** -/
theorem tracks_nothing_iff {ops : List Operation}
    (hs : ∀ p, p <+: ops → ((configured version backend x).run p).started = false) :
    ∃ loaded, (configured version backend x).run ops = holding version backend x loaded false ∧
      (loaded = [] ↔ FailedAtOnce x ops) := by
  induction ops using List.reverseRecOn with
  | nil =>
    refine ⟨[], rfl, fun _ p tree hp => ?_, fun _ => rfl⟩
    cases p <;> cases List.prefix_nil.mp hp
  | append_singleton ops op ih =>
    obtain ⟨loaded, h, hl⟩ := ih fun p hp => hs p (List.prefix_concat_iff.mpr (.inr hp))
    obtain ⟨loaded', started', h', outcome⟩ :=
      outcome_operate version backend x loaded false op
    rw [← h, ← run_concat] at h'
    obtain rfl : started' = false := by
      have stopped := hs _ (List.prefix_refl _)
      rwa [h'] at stopped
    refine ⟨loaded', h', ?_⟩
    rw [failedAtOnce_concat, ← hl]
    cases outcome with
    | idle => exact ⟨fun hn => ⟨hn, nofun⟩, And.left⟩
    | down tree message => exact ⟨fun hn => ⟨hn, nofun⟩, And.left⟩
    | failed _ tree _ _ hm =>
      have grown : loaded' = [] ↔ loaded = [] ∧
          x.required.takeWhile (Extensions.isAvailable tree { x with loaded }) = [] := by
        simp only [List.eq_nil_iff_forall_not_mem, hm, not_or, forall_and]
      rw [grown]
      constructor
      · rintro ⟨rfl, none⟩
        refine ⟨rfl, fun tree' ho => ?_⟩
        obtain ⟨rfl, -⟩ := Operation.start.inj ho
        exact (takeWhile_eq_nil_iff_failsAtOnce x).mp none
      · rintro ⟨rfl, ho⟩
        exact ⟨rfl, (takeWhile_eq_nil_iff_failsAtOnce x).mpr (ho tree rfl)⟩

/-- An engine that is stopped was never started since its last stop, or since the beginning. -/
theorem stopped_since {ops : List Operation}
    (hs : ((configured version backend x).run ops).started = false) :
    ∃ before after, ops = before ++ after ∧
      (before = [] ∨ ∃ earlier, before = earlier ++ [.stop] ∧
        ((configured version backend x).run earlier).started = true) ∧
      (configured version backend x).run before = configured version backend x ∧
      ∀ p, p <+: after → ((configured version backend x).run p).started = false := by
  induction ops using List.reverseRecOn with
  | nil =>
    refine ⟨[], [], rfl, .inl rfl, rfl, fun p hp => ?_⟩
    obtain rfl := List.prefix_nil.mp hp
    rfl
  | append_singleton ops op ih =>
    cases hb : ((configured version backend x).run ops).started with
    | true =>
      obtain ⟨loaded, started, h⟩ := run_configured version backend x ops
      rw [h] at hb
      obtain rfl : started = true := hb
      have stop : op = .stop := by
        cases op with
        | stop => rfl
        | start tree answer =>
          rw [run_concat, h] at hs
          cases hs
      subst stop
      have running : ((configured version backend x).run ops).started = true := by rw [h]; rfl
      refine ⟨ops ++ [.stop], [], (List.append_nil _).symm, .inr ⟨ops, rfl, running⟩,
        run_stop version backend x running, fun p hp => ?_⟩
      obtain rfl := List.prefix_nil.mp hp
      rfl
    | false =>
      obtain ⟨before, after, rfl, since, same, stopped⟩ := ih hb
      refine ⟨before, after ++ [op], List.append_assoc _ _ _, since, same, fun p hp => ?_⟩
      rcases List.prefix_concat_iff.mp hp with rfl | earlier
      · rw [List.append_assoc, run_append, same] at hs
        exact hs
      · exact stopped p earlier

/-! ## 3. What a start adds -/

/-- **A start that fails adds the required extensions before the one that failed.** -/
theorem tracked_of_failure {ops : List Operation} {tree : Files.Tree} {answer : Except String Unit}
    (hs : ((configured version backend x).run ops).started = false)
    (hf : ((configured version backend x).run (ops ++ [.start tree answer])).started = false)
    (n : String) :
    n ∈ ((configured version backend x).run (ops ++ [.start tree answer])).tracked ↔
      n ∈ ((configured version backend x).run ops).tracked ∨ answer = .ok () ∧
        n ∈ x.required.takeWhile (Extensions.isAvailable tree
          { x with loaded := ((configured version backend x).run ops).tracked }) := by
  obtain ⟨loaded, started, h⟩ := run_configured version backend x ops
  obtain ⟨loaded', started', h', outcome⟩ :=
    outcome_operate version backend x loaded started (.start tree answer)
  rw [run_concat, h, h'] at hf ⊢
  rw [h] at hs
  obtain rfl : started = false := hs
  obtain rfl : started' = false := hf
  simp only [tracked_holding]
  cases outcome with
  | down tree message => simp
  | failed _ tree _ _ hl => exact (hl n).trans (or_congr_right ⟨fun h => ⟨rfl, h⟩, And.right⟩)

/-- **The first start succeeds just if every required extension opens**, and then it tracks these
and the optional ones that open. -/
theorem started_of_first {name : String} (hb : backend = .interpreter name) (tree : Files.Tree) :
    (((configured version backend x).operate (.start tree (.ok ()))).started = true ↔
      ∀ n ∈ x.required, x.opens tree n = true) ∧
    (((configured version backend x).operate (.start tree (.ok ()))).started = true → ∀ n,
      n ∈ ((configured version backend x).operate (.start tree (.ok ()))).tracked ↔
        n ∈ x.required ∨ n ∈ x.optional ∧ x.opens tree n = true) := by
  obtain ⟨loaded', started', h', outcome⟩ :=
    outcome_operate version backend x [] false (.start tree (.ok ()))
  unfold configured
  rw [h', ← Extensions.isAvailable_unloaded]
  simp only [started_holding, tracked_holding]
  cases outcome with
  | fallback tree answer hf => cases hb.symm.trans hf
  | failed _ tree _ hu hl => exact ⟨⟨nofun, fun ha => absurd ha hu⟩, nofun⟩
  | succeeded _ tree _ ha hl =>
    exact ⟨⟨fun _ => ha, fun _ => rfl⟩, fun _ n => (hl n).trans (or_iff_right List.not_mem_nil)⟩

/-- **What an engine tracks after starts and stops.** -/
structure StoppedTracks (ops : List Operation) : Prop where
  /-- A stop of an engine that is started leaves it as it was before its first start. -/
  stop : ((configured version backend x).run ops).started = true →
    (configured version backend x).run (ops ++ [.stop]) = configured version backend x
  /-- While it is stopped, it tracks nothing just if it is as before its first start. -/
  unchanged : ((configured version backend x).run ops).started = false →
    (((configured version backend x).run ops).tracked = [] ↔
      (configured version backend x).run ops = configured version backend x)
  /-- That is so just if every start since the last stop, from which on it stayed stopped, failed
  at the interpreter or at the first required extension. -/
  nothing : ((configured version backend x).run ops).started = false →
    ∃ before after, ops = before ++ after ∧
      (before = [] ∨ ∃ earlier, before = earlier ++ [.stop] ∧
        ((configured version backend x).run earlier).started = true) ∧
      (∀ p, p <+: after → ((configured version backend x).run p).started = false) ∧
      (((configured version backend x).run ops).tracked = [] ↔ FailedAtOnce x after)
  /-- A start that fails adds the required extensions before the one that failed. -/
  failed : ((configured version backend x).run ops).started = false → ∀ tree answer,
    ((configured version backend x).run (ops ++ [.start tree answer])).started = false → ∀ n,
      n ∈ ((configured version backend x).run (ops ++ [.start tree answer])).tracked ↔
        n ∈ ((configured version backend x).run ops).tracked ∨ answer = .ok () ∧
          n ∈ x.required.takeWhile (Extensions.isAvailable tree
            { x with loaded := ((configured version backend x).run ops).tracked })
  /-- The first start succeeds just if every required extension opens, and then it tracks these and
  the optional ones that open. So does every start of an engine that is as before its first. -/
  first : ∀ name, backend = .interpreter name → ∀ tree,
    (((configured version backend x).operate (.start tree (.ok ()))).started = true ↔
      ∀ n ∈ x.required, x.opens tree n = true) ∧
    (((configured version backend x).operate (.start tree (.ok ()))).started = true → ∀ n,
      n ∈ ((configured version backend x).operate (.start tree (.ok ()))).tracked ↔
        n ∈ x.required ∨ n ∈ x.optional ∧ x.opens tree n = true)

end Outcome

/-- **What a stopped engine tracks.** A stop leaves the engine as before its first start. While it
stays stopped it tracks nothing, and is as before its first start, just if every start since failed
at the interpreter or at the first required extension; a start that fails adds what it loaded. -/
theorem stopped_tracks (version : String) (backend : Backend) (x : Extensions)
    (ops : List Operation) : StoppedTracks version backend x ops := by
  refine ⟨run_stop version backend x, fun hs => ?_, fun hs => ?_, fun hs tree answer hf =>
    tracked_of_failure version backend x hs hf,
    fun name hb => started_of_first version backend x hb⟩
  · obtain ⟨loaded, started, h⟩ := run_configured version backend x ops
    rw [h] at hs ⊢
    obtain rfl : started = false := hs
    constructor
    · intro none
      obtain rfl : loaded = [] := none
      rfl
    · intro same
      rw [same]
      rfl
  · obtain ⟨before, after, rfl, since, same, stopped⟩ := stopped_since version backend x hs
    obtain ⟨loaded, h, nothing⟩ := tracks_nothing_iff version backend x stopped
    refine ⟨before, after, rfl, since, stopped, ?_⟩
    rw [run_append, same, h]
    exact nothing

/-- Two extensions that are required. -/
def requiringTwo : Extensions :=
  { version := "8.3", directory := "/ext", required := ["a", "b"], optional := [], loaded := [] }

/-- The directory with one of them. -/
def withOnly (file : String) : Files.Tree :=
  { entries := [(["ext", file], .sharedLibrary true)] }

/-- An engine that requires both. -/
def needingTwo : Engine :=
  configured "8.3" (.interpreter "test") requiringTwo

/-- The directory with both. -/
def withBoth : Files.Tree :=
  { entries := [(["ext", "a.so"], .sharedLibrary true), (["ext", "b.so"], .sharedLibrary true)] }

/-- The interpreter fails once, the first extension fails once, and the engine is started and
stopped. -/
def clean : List Operation :=
  [.start withBoth (.error "no"), .start (withOnly "b.so") (.ok ()), .start withBoth (.ok ())]

theorem stopped_tracks_clean :
    (needingTwo.run clean).started = true ∧ (needingTwo.run clean).tracked = ["a", "b"] ∧
      needingTwo.run (clean ++ [.stop]) = needingTwo := by
  have started : (needingTwo.run clean).started = true := by decide +kernel
  have tracks := stopped_tracks "8.3" (.interpreter "test") requiringTwo clean
  exact ⟨started, by decide +kernel, tracks.stop started⟩

/-- **A start that fails leaves what it loaded**, and the next one takes it for loaded: it succeeds
on files on which the first start fails. -/
theorem left_tracked :
    (needingTwo.startup (withOnly "a.so") (.ok ())).failure =
        some (.extension (.notFound "b" "/ext/b.so")) ∧
      (needingTwo.run [.start (withOnly "a.so") (.ok ())]).started = false ∧
      (needingTwo.run [.start (withOnly "a.so") (.ok ())]).tracked = ["a"] ∧
      (needingTwo.run [.start (withOnly "b.so") (.ok ())]).started = false ∧
      (needingTwo.run
        [.start (withOnly "a.so") (.ok ()), .start (withOnly "b.so") (.ok ())]).started = true := by
  decide +kernel

end ScriptGateway.Engine
