import Mathlib.Logic.Relation
import ScriptGateway.Engine.Operators
/-!
# What one step of an operator does

A step of an operator takes the lock, goes on inside it, or gives it back. The steps of an operator
that nobody disturbs come to the start, or the stop, of the engine as one transition.

* `Effect m a m'`: the rules, `effect_of_step`: the machine follows them.
* `reachable_induction`: what every rule keeps holds of all reachable states.
* `leads_startup`, `leads_shutdown`: an operator on its own.
-/

namespace ScriptGateway.Engine.Operators

open Operator (Turn)

/-! ## 1. Steps -/

/-- What changes the files, the extensions and the threads leaves the rest of the engine. -/
structure Undisturbed (e e' : Engine) : Prop where
  started : e'.started = e.started
  backend : e'.bridge.backend = e.bridge.backend

/-- The operator that takes a step. -/
def Action.index? : Action → Option Nat
  | .advance index _ => some index
  | _ => none

/-- **What one step does.** -/
inductive Effect (m : Operators) : Action → Operators → Prop where
  | arrive (wish : Wish) (hd : m.dropped = false) : Effect m (.arrive wish) (m.enlist wish)
  | drop (hd : m.dropped = false) (ended : ∀ o ∈ m.operators, o.stage.isEnded = true) :
      Effect m .drop { m.enlist .stop with dropped := true }
  | world (a : Action) (engine : Engine) (tree : Files.Tree) (ha : a.index? = none)
      (he : Undisturbed m.engine engine) : Effect m a { m with engine, tree }
  | lock (i : Nat) (answer : Except String Unit) (wish : Wish)
      (ho : m.operators[i]? = some ⟨wish, .arrived⟩) (free : m.holder = none) :
      Effect m (.advance i answer)
        { m with holder := some i, operators := m.operators.set i ⟨wish, .entered⟩ }
  | go (i : Nat) (answer : Except String Unit) (o : Operator) (turn : Turn)
      (ho : m.operators[i]? = some o)
      (ht : Operator.advance? m.tree answer m.engine o.wish o.stage = some turn) :
      Effect m (.advance i answer) (m.took i o.wish turn)
  | unlock (i : Nat) (answer : Except String Unit) (wish : Wish) (failure : Option Error)
      (ho : m.operators[i]? = some ⟨wish, .leaving failure⟩) :
      Effect m (.advance i answer)
        { m with holder := none, operators := m.operators.set i ⟨wish, .ended failure⟩ }

theorem effect_of_operate {m m' : Operators} {i : Nat} {answer : Except String Unit} {o : Operator}
    (ho : m.operators[i]? = some o) (hs : m.operate? i answer o = some m') :
    Effect m (.advance i answer) m' := by
  obtain ⟨wish, stage⟩ := o
  unfold operate? at hs
  split at hs
  · next hp =>
    obtain rfl : stage = .arrived := hp
    split at hs
    · next free =>
      obtain rfl := Option.some.inj hs
      exact .lock i answer wish ho free
    · cases hs
  · next failure hp =>
    obtain rfl : stage = .leaving failure := hp
    obtain rfl := Option.some.inj hs
    exact .unlock i answer wish failure ho
  · obtain ⟨turn, ht, rfl⟩ := Option.map_eq_some_iff.mp hs
    exact .go i answer _ turn ho ht

/-- **Whatever a step does is one of the rules.** -/
theorem effect_of_step {m m' : Operators} {a : Action} (hs : m.step? a = some m') :
    Effect m a m' := by
  cases a with
  | arrive wish =>
    simp only [step?] at hs
    split at hs
    · cases hs
    · next hd =>
      obtain rfl := Option.some.inj hs
      exact .arrive wish (Bool.eq_false_iff.mpr hd)
  | drop =>
    simp only [step?] at hs
    split at hs
    · next hd =>
      obtain ⟨hd, ended⟩ := Bool.and_eq_true_iff.mp hd
      obtain rfl := Option.some.inj hs
      exact .drop (by simpa using hd) (List.all_eq_true.mp ended)
    · cases hs
  | advance i answer =>
    obtain ⟨o, ho, hs⟩ := Option.bind_eq_some_iff.mp hs
    exact effect_of_operate ho hs
  | files tree =>
    obtain rfl := Option.some.inj hs
    exact .world _ m.engine tree rfl ⟨rfl, rfl⟩
  | others loaded =>
    obtain rfl := Option.some.inj hs
    exact .world _ _ m.tree rfl ⟨rfl, rfl⟩
  | scripts active =>
    obtain rfl := Option.some.inj hs
    exact .world _ _ m.tree rfl ⟨rfl, rfl⟩

/-- **The induction over all orders of steps.** -/
theorem reachable_induction {first : Operators} {P : Operators → Prop} (start : P first)
    (step : ∀ {m m' : Operators} {a : Action}, P m → Effect m a m' → P m') {m : Operators}
    (hr : Reachable first m) : P m := by
  induction hr with
  | start => exact start
  | step _ a hs ih => exact step ih (effect_of_step hs)

/-! ## 2. One operator on its own -/

/-- Where the steps of an operator inside the lock lead, with all that happened on the way. -/
def Goes (tree : Files.Tree) (answer : Except String Unit) (wish : Wish) : Turn → Turn → Prop :=
  Relation.ReflTransGen fun t t' => ∃ u,
    Operator.advance? tree answer t.engine wish t.stage = some u ∧
      t' = { u with happened := t.happened ++ u.happened }

section Goes

variable {tree : Files.Tree} {answer : Except String Unit} {wish : Wish}

theorem Goes.head {t t' u : Turn}
    (hu : Operator.advance? tree answer t.engine wish t.stage = some u)
    (hg : Goes tree answer wish { u with happened := t.happened ++ u.happened } t') :
    Goes tree answer wish t t' :=
  Relation.ReflTransGen.head ⟨u, hu, rfl⟩ hg

/-- A step in which nothing happens to the interpreter. -/
theorem Goes.quiet {e e' : Engine} {stage stage' : Stage} {happened : List Happening} {t : Turn}
    (hu : Operator.advance? tree answer e wish stage =
      some { engine := e', stage := stage', happened := [] })
    (hg : Goes tree answer wish { engine := e', stage := stage', happened } t) :
    Goes tree answer wish { engine := e, stage, happened } t :=
  Goes.head hu (by rwa [List.append_nil])

/-- The required extensions are loaded up to the first that fails. -/
theorem goes_requiring (tree : Files.Tree) (answer : Except String Unit) (wish : Wish) (e : Engine)
    (x : Extensions) (names : List String) (happened : List Happening) :
    Goes tree answer wish
      { engine := { e with extensions := some x }, stage := .requiring names, happened }
      { engine := { e with extensions := some (x.loadRequired tree names).2 }
        stage := match (x.loadRequired tree names).1 with
          | none => .requiring []
          | some cause => .retreating cause
        happened } := by
  induction names generalizing x with
  | nil => exact .refl
  | cons name names ih =>
    unfold Extensions.loadRequired
    cases hl : x.load? tree name with
    | ok x' => exact Goes.quiet (by simp [Operator.advance?, hl]) (ih x')
    | error cause => exact Goes.quiet (by simp [Operator.advance?, hl]) .refl

/-- The optional extensions are all tried. -/
theorem goes_offering (tree : Files.Tree) (answer : Except String Unit) (wish : Wish) (e : Engine)
    (x : Extensions) (names : List String) (happened : List Happening) :
    Goes tree answer wish
      { engine := { e with extensions := some x }, stage := .offering names, happened }
      { engine := { e with extensions := some (x.loadOptional tree names).2 }
        stage := .offering [], happened } := by
  induction names generalizing x with
  | nil => exact .refl
  | cons name names ih =>
    unfold Extensions.loadOptional
    cases hl : x.load? tree name with
    | ok x' => exact Goes.quiet (by simp [Operator.advance?, hl]) (ih x')
    | error cause => exact Goes.quiet (by simp [Operator.advance?, hl]) (ih x)

/-- The interpreter is up, and the operator loads the extensions. -/
theorem goes_extensions (tree : Files.Tree) (answer : Except String Unit) (e : Engine) :
    ∃ happened, happened.map (Happening.call e.version) = (e.startExtensions tree).calls ∧
      Goes tree answer .start
        { engine := e, stage := Operator.afterStart e, happened := [.cameUp] }
        { engine := (e.startExtensions tree).engine
          stage := .leaving (e.startExtensions tree).failure
          happened } := by
  obtain ⟨version, bridge, extensions, started⟩ := e
  unfold Engine.startExtensions Operator.afterStart
  cases extensions with
  | none => exact ⟨[.cameUp], rfl, Goes.quiet rfl .refl⟩
  | some x =>
    have required := goes_requiring tree answer .start
      ⟨version, bridge, some x, started⟩ x x.required [.cameUp]
    unfold Extensions.loadAll
    rcases hr : x.loadRequired tree x.required with ⟨failure, x'⟩
    simp only [hr] at required ⊢
    cases failure with
    | some cause =>
      exact ⟨[.cameUp, .stopped], rfl, Relation.ReflTransGen.trans required (Goes.head rfl .refl)⟩
    | none =>
      have optional := goes_offering tree answer .start
        ⟨version, bridge, some x', started⟩ x' x'.optional [.cameUp]
      refine ⟨[.cameUp], rfl, Relation.ReflTransGen.trans required (Goes.quiet rfl ?_)⟩
      exact Relation.ReflTransGen.trans optional (Goes.quiet rfl (Goes.quiet rfl .refl))

/-- The steps of a start come to the start as one transition. -/
theorem goes_startup (tree : Files.Tree) (answer : Except String Unit) (e : Engine) :
    ∃ happened, happened.map (Happening.call e.version) = (e.startup tree answer).calls ∧
      Goes tree answer .start { engine := e, stage := .entered, happened := [] }
        { engine := (e.startup tree answer).engine
          stage := .leaving (e.startup tree answer).failure
          happened } := by
  unfold Engine.startup
  cases hs : e.started with
  | true => exact ⟨[], rfl, Goes.quiet (by simp [Operator.advance?, Operator.look, hs]) .refl⟩
  | false =>
    cases hb : e.bridge.backend with
    | fallback =>
      have looked : Operator.advance? tree answer e .start .entered =
          some { engine := e, stage := .marking, happened := [] } := by
        simp [Operator.advance?, Operator.look, hs, hb]
      exact ⟨[], rfl, Goes.quiet looked (Goes.quiet rfl .refl)⟩
    | interpreter name =>
      have looked : Operator.advance? tree answer e .start .entered =
          some { engine := e, stage := .starting, happened := [] } := by
        simp [Operator.advance?, Operator.look, hs, hb]
      cases answer with
      | error message => exact ⟨[.failed message], rfl, Goes.quiet looked (Goes.head rfl .refl)⟩
      | ok _ =>
        obtain ⟨happened, calls, goes⟩ := goes_extensions tree (.ok ()) e
        exact ⟨happened, calls, Goes.quiet looked (Goes.head rfl goes)⟩

/-- The steps of a stop come to the stop as one transition. -/
theorem goes_shutdown (tree : Files.Tree) (answer : Except String Unit) (e : Engine) :
    ∃ happened, happened.map (Happening.call e.version) = e.shutdown.calls ∧
      Goes tree answer .stop { engine := e, stage := .entered, happened := [] }
        { engine := e.shutdown.engine, stage := .leaving e.shutdown.failure, happened } := by
  unfold Engine.shutdown
  cases hs : e.started with
  | false => exact ⟨[], rfl, Goes.quiet (by simp [Operator.advance?, Operator.look, hs]) .refl⟩
  | true =>
    have looked : Operator.advance? tree answer e .stop .entered =
        some { engine := { e with started := false }, stage := .forgetting, happened := [] } := by
      simp [Operator.advance?, Operator.look, hs]
    cases hb : e.bridge.backend with
    | fallback =>
      have forgot : Operator.advance? tree answer { e with started := false } .stop .forgetting =
          some
            { engine := { e with
                started := false, extensions := e.extensions.map Extensions.unloadAll }
              stage := .leaving none, happened := [] } := by
        simp only [Operator.advance?, hb]
      exact ⟨[], rfl, Goes.quiet looked (Goes.quiet forgot .refl)⟩
    | interpreter name =>
      have forgot : Operator.advance? tree answer { e with started := false } .stop .forgetting =
          some
            { engine := { e with
                started := false, extensions := e.extensions.map Extensions.unloadAll }
              stage := .halting, happened := [] } := by
        simp only [Operator.advance?, hb]
      exact ⟨[.stopped], rfl, Goes.quiet looked (Goes.quiet forgot (Goes.head rfl .refl))⟩

end Goes

/-- Where steps of one operator lead, if nothing else happens. -/
def Leads (i : Nat) (answer : Except String Unit) : Operators → Operators → Prop :=
  Relation.ReflTransGen fun m m' => m.step? (.advance i answer) = some m'

/-- The state once an operator got through: the lock is free again. -/
def finished (m : Operators) (i : Nat) (wish : Wish) (engine : Engine) (failure : Option Error)
    (happened : List Happening) : Operators :=
  { m with
    engine
    holder := none
    operators := m.operators.set i ⟨wish, .ended failure⟩
    record := m.record ++ happened }

theorem step_of_operator {m : Operators} {i : Nat} {answer : Except String Unit} {o : Operator}
    (ho : m.operators[i]? = some o) : m.step? (.advance i answer) = m.operate? i answer o := by
  show m.operators[i]?.bind (m.operate? i answer) = _
  rw [ho, Option.bind_some]

theorem operate_of_advance {m : Operators} {answer : Except String Unit} {wish : Wish}
    {stage : Stage} {u : Turn} (i : Nat)
    (hu : Operator.advance? m.tree answer m.engine wish stage = some u) :
    m.operate? i answer ⟨wish, stage⟩ = some (m.took i wish u) := by
  cases stage with
  | arrived => cases hu
  | leaving failure => cases hu
  | _ => exact Option.map_eq_some_iff.mpr ⟨u, hu, rfl⟩

theorem operator_took {m : Operators} {i : Nat} {o : Operator} (ho : m.operators[i]? = some o)
    (wish : Wish) (t : Turn) : (m.took i wish t).operators[i]? = some ⟨wish, t.stage⟩ := by
  obtain ⟨hi, -⟩ := List.getElem?_eq_some_iff.mp ho
  exact List.getElem?_set_self hi

theorem took_took (m : Operators) (i : Nat) (wish : Wish) (t u : Turn) :
    (m.took i wish t).took i wish u =
      m.took i wish { u with happened := t.happened ++ u.happened } := by
  unfold took
  simp only [List.set_set, List.append_assoc]

/-- What an operator does inside the lock it does in the machine. -/
theorem leads_of_goes {m : Operators} {i : Nat} {answer : Except String Unit} {o : Operator}
    (ho : m.operators[i]? = some o) {wish : Wish} {t t' : Turn}
    (hg : Goes m.tree answer wish t t') : Leads i answer (m.took i wish t) (m.took i wish t') := by
  induction hg with
  | refl => exact .refl
  | tail _ hs ih =>
    refine Relation.ReflTransGen.tail ih ?_
    obtain ⟨u, hu, rfl⟩ := hs
    rw [step_of_operator (operator_took ho wish _), ← took_took]
    exact operate_of_advance i hu

/-- **An operator that nobody disturbs gets through**, once the lock is free. -/
theorem leads_finished {m : Operators} {i : Nat} {answer : Except String Unit} {wish : Wish}
    (ho : m.operators[i]? = some ⟨wish, .arrived⟩) (free : m.holder = none) {engine : Engine}
    {failure : Option Error} {happened : List Happening}
    (hg : Goes m.tree answer wish { engine := m.engine, stage := .entered, happened := [] }
      { engine, stage := .leaving failure, happened }) :
    Leads i answer m (m.finished i wish engine failure happened) := by
  have entered : m.step? (.advance i answer) = some
      { m with holder := some i, operators := m.operators.set i ⟨wish, .entered⟩ } := by
    rw [step_of_operator ho]
    exact if_pos free
  refine Relation.ReflTransGen.head entered ?_
  have inside := leads_of_goes
    (m := { m with holder := some i, operators := m.operators.set i ⟨wish, .entered⟩ })
    (operator_took ho wish { engine := m.engine, stage := .entered, happened := [] }) hg
  simp only [took, List.set_set, List.append_nil] at inside
  refine Relation.ReflTransGen.tail inside ?_
  obtain ⟨hi, -⟩ := List.getElem?_eq_some_iff.mp ho
  rw [step_of_operator (o := ⟨wish, .leaving failure⟩) (List.getElem?_set_self hi)]
  simp only [operate?, finished, List.set_set]

/-- **A start that nobody disturbs is the start as one transition.** -/
theorem leads_startup {m : Operators} {i : Nat} (answer : Except String Unit)
    (ho : m.operators[i]? = some ⟨.start, .arrived⟩) (free : m.holder = none) :
    ∃ happened,
      happened.map (Happening.call m.engine.version) = (m.engine.startup m.tree answer).calls ∧
      Leads i answer m (m.finished i .start (m.engine.startup m.tree answer).engine
        (m.engine.startup m.tree answer).failure happened) := by
  obtain ⟨happened, calls, goes⟩ := goes_startup m.tree answer m.engine
  exact ⟨happened, calls, leads_finished ho free goes⟩

/-- **A stop that nobody disturbs is the stop as one transition.** -/
theorem leads_shutdown {m : Operators} {i : Nat} (answer : Except String Unit)
    (ho : m.operators[i]? = some ⟨.stop, .arrived⟩) (free : m.holder = none) :
    ∃ happened, happened.map (Happening.call m.engine.version) = m.engine.shutdown.calls ∧
      Leads i answer m
        (m.finished i .stop m.engine.shutdown.engine m.engine.shutdown.failure happened) := by
  obtain ⟨happened, calls, goes⟩ := goes_shutdown m.tree answer m.engine
  exact ⟨happened, calls, leads_finished ho free goes⟩

end ScriptGateway.Engine.Operators
