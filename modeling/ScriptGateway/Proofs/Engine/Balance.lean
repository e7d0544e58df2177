import ScriptGateway.Proofs.Engine.Operators
import ScriptGateway.Proofs.Steps
/-!
# As many stops as starts

The interpreter is started only while it is down and stopped only while it is up, whoever starts
and stops the engine and however their steps interleave. Between taking the lock and giving it back
an operator may leave the engine's mark and the interpreter apart; when it gives the lock back they
agree again.

* `Passes up happened up'`: what may happen to an interpreter that is up, or is not.
* `Consistent`: what the mark and the interpreter are at each stage of the operator that has the
  lock, `consistent_advance`: each step keeps it.
* `Balanced`: the record at every moment, `balanced_step`: each step keeps it.
* `LifecycleBalance`, `lifecycle_balance`: what follows for every state that operators lead to.
-/

namespace ScriptGateway.Engine

/-- Whether an operator has the lock. -/
def Stage.isInside : Stage → Bool
  | .arrived | .ended _ => false
  | _ => true

namespace Operators

open Operator (Turn)

/-! ## 1. Up and down -/

/-- How often the interpreter came up. -/
def ups (record : List Happening) : Nat :=
  record.count .cameUp

/-- How often it was stopped. -/
def downs (record : List Happening) : Nat :=
  record.count .stopped

/-- Whether something may happen to the interpreter after all that happened before: it is started
when there were as many stops as starts, and stopped when there was one start more. -/
def Fits (before : List Happening) : Happening → Prop
  | .stopped => ups before = downs before + 1
  | .cameUp | .failed _ => ups before = downs before

/-- What may happen in one step to an interpreter that is up, or is not. -/
inductive Passes : Bool → List Happening → Bool → Prop where
  | nothing (up : Bool) : Passes up [] up
  | cameUp : Passes false [.cameUp] true
  | failed (message : String) : Passes false [.failed message] false
  | stopped : Passes true [.stopped] false

theorem Passes.counts {record happened : List Happening} {up up' : Bool}
    (hp : Passes up happened up') (h : ups record = downs record + up.toNat) :
    ups (record ++ happened) = downs (record ++ happened) + up'.toNat := by
  unfold ups downs at h ⊢
  cases hp <;> simp at h ⊢ <;> omega

/-- One step adds one happening at most, which may come then; a start comes to an interpreter that
is down. -/
theorem Passes.added {record happened : List Happening} {up up' : Bool}
    (hp : Passes up happened up') (h : ups record = downs record + up.toNat) :
    record ++ happened = record ∨ ∃ x, record ++ happened = record ++ [x] ∧ Fits record x ∧
      (x ≠ .stopped → up = false) := by
  cases hp with
  | nothing => exact .inl (List.append_nil record)
  | cameUp => exact .inr ⟨.cameUp, rfl, h, fun _ => rfl⟩
  | failed message => exact .inr ⟨.failed message, rfl, h, fun _ => rfl⟩
  | stopped => exact .inr ⟨.stopped, rfl, h, fun hn => absurd rfl hn⟩

/-! ## 2. The operator that has the lock -/

/-- What the engine's mark and the interpreter are, stage by stage. -/
inductive Consistent : Wish → (started up : Bool) → Stage → Prop where
  | entered (wish : Wish) (up : Bool) : Consistent wish up up .entered
  | starting : Consistent .start false false .starting
  | requiring (names : List String) : Consistent .start false true (.requiring names)
  | offering (names : List String) : Consistent .start false true (.offering names)
  | retreating (cause : ExtensionError) : Consistent .start false true (.retreating cause)
  | marking : Consistent .start false true .marking
  | forgetting : Consistent .stop false true .forgetting
  | halting : Consistent .stop false true .halting
  | succeeded : Consistent .start true true (.leaving none)
  | gaveUp (e : Error) : Consistent .start false false (.leaving (some e))
  | stopped : Consistent .stop false false (.leaving none)

/-- An interpreter that is down belongs to an engine that is not marked as started. -/
theorem Consistent.unstarted {wish : Wish} {started : Bool} {stage : Stage}
    (h : Consistent wish started false stage) : started = false := by
  cases h <;> rfl

/-- With its result an operator finds the mark and the interpreter in agreement. -/
theorem Consistent.agrees {wish : Wish} {started up : Bool} {failure : Option Error}
    (h : Consistent wish started up (.leaving failure)) : up = started := by
  cases h <;> rfl

/-- A start succeeds just if the engine is started when it leaves. -/
theorem Consistent.succeeds_iff {started up : Bool} {failure : Option Error}
    (h : Consistent .start started up (.leaving failure)) : failure = none ↔ started = true := by
  cases h <;> simp

/-- A stop leaves a stopped engine. -/
theorem Consistent.stops {started up : Bool} {failure : Option Error}
    (h : Consistent .stop started up (.leaving failure)) : started = false := by
  cases h
  rfl

theorem Consistent.isInside {wish : Wish} {started up : Bool} {stage : Stage}
    (h : Consistent wish started up stage) : stage.isInside = true := by
  cases h <;> rfl

/-- Who is inside has not ended. -/
theorem isEnded_of_isInside {stage : Stage} (h : stage.isInside = true) :
    stage.isEnded = false := by
  cases stage with
  | ended failure => cases h
  | _ => rfl

theorem consistent_afterStart (e : Engine) :
    Consistent .start false true (Operator.afterStart e) := by
  unfold Operator.afterStart
  split
  · exact .marking
  · exact .requiring _

theorem consistent_look {name : String} {e : Engine} (hb : e.bridge.backend = .interpreter name)
    (wish : Wish) :
    Consistent wish (Operator.look e wish).engine.started e.started
      (Operator.look e wish).stage := by
  cases wish with
  | start =>
    unfold Operator.look
    cases hs : e.started with
    | true => simpa [hs] using Consistent.succeeded
    | false => simpa [hs, hb] using Consistent.starting
  | stop =>
    unfold Operator.look
    cases hs : e.started with
    | true => simpa [hs] using Consistent.forgetting
    | false => simpa [hs] using Consistent.stopped

/-- Looking leaves the bridge and the interpreter as they are. -/
theorem quiet_look (e : Engine) (wish : Wish) :
    (Operator.look e wish).engine.bridge = e.bridge ∧ (Operator.look e wish).happened = [] := by
  cases wish with
  | start => exact ⟨rfl, rfl⟩
  | stop => cases hs : e.started <;> simp [Operator.look, hs]

/-- Loading an extension changes nothing but what is loaded. -/
theorem consistent_load {tree : Files.Tree} {name : String} {e : Engine} {wish : Wish} {up : Bool}
    {x : Extensions} {extension : String} {loaded : Extensions → Stage}
    {failed : ExtensionError → Stage} (hb : e.bridge.backend = .interpreter name)
    (hl : ∀ x', Consistent wish e.started up (loaded x'))
    (hf : ∀ cause, Consistent wish e.started up (failed cause)) {turn : Turn}
    (ht : turn = match x.load? tree extension with
      | .ok x' =>
        { engine := { e with extensions := some x' }, stage := loaded x', happened := [] }
      | .error cause => { engine := e, stage := failed cause, happened := [] }) :
    turn.engine.bridge.backend = .interpreter name ∧ ∃ up', Passes up turn.happened up' ∧
      Consistent wish turn.engine.started up' turn.stage := by
  subst ht
  cases x.load? tree extension with
  | ok x' => exact ⟨hb, up, .nothing up, hl x'⟩
  | error cause => exact ⟨hb, up, .nothing up, hf cause⟩

/-- Only who is inside takes such a step. -/
theorem inside_of_advance {tree : Files.Tree} {answer : Except String Unit} {e : Engine}
    {wish : Wish} {stage : Stage} {turn : Turn}
    (ht : Operator.advance? tree answer e wish stage = some turn) : stage.isInside = true := by
  cases stage with
  | arrived => cases ht
  | ended failure => cases ht
  | _ => rfl

/-- **Every step of the operator that has the lock keeps it**, and what happens to the interpreter
in that step may happen. -/
theorem consistent_advance {tree : Files.Tree} {answer : Except String Unit} {name : String}
    {e : Engine} {wish : Wish} {up : Bool} {stage : Stage} {turn : Turn}
    (hb : e.bridge.backend = .interpreter name) (hc : Consistent wish e.started up stage)
    (ht : Operator.advance? tree answer e wish stage = some turn) :
    turn.engine.bridge.backend = .interpreter name ∧ ∃ up', Passes up turn.happened up' ∧
      Consistent wish turn.engine.started up' turn.stage := by
  generalize hs : e.started = started at hc
  cases hc with
  | entered =>
    obtain rfl := Option.some.inj ht
    obtain ⟨bridge, happened⟩ := quiet_look e wish
    refine ⟨bridge ▸ hb, up, ?_, hs ▸ consistent_look hb wish⟩
    rw [happened]
    exact .nothing up
  | starting =>
    cases answer with
    | error message =>
      obtain rfl := Option.some.inj ht
      exact ⟨hb, false, .failed message, hs.symm ▸ .gaveUp _⟩
    | ok _ =>
      obtain rfl := Option.some.inj ht
      exact ⟨hb, true, .cameUp, hs.symm ▸ consistent_afterStart e⟩
  | requiring names =>
    cases names with
    | nil =>
      obtain ⟨x, -, rfl⟩ := Option.map_eq_some_iff.mp ht
      exact ⟨hb, true, .nothing true, hs.symm ▸ .offering x.optional⟩
    | cons extension names =>
      obtain ⟨x, -, ht⟩ := Option.map_eq_some_iff.mp ht
      exact consistent_load hb (fun _ => hs.symm ▸ .requiring names)
        (fun cause => hs.symm ▸ .retreating cause) ht.symm
  | offering names =>
    cases names with
    | nil =>
      obtain rfl := Option.some.inj ht
      exact ⟨hb, true, .nothing true, hs.symm ▸ .marking⟩
    | cons extension names =>
      obtain ⟨x, -, ht⟩ := Option.map_eq_some_iff.mp ht
      exact consistent_load hb (fun _ => hs.symm ▸ .offering names)
        (fun _ => hs.symm ▸ .offering names) ht.symm
  | retreating cause =>
    obtain rfl := Option.some.inj ht
    exact ⟨hb, false, .stopped, hs.symm ▸ .gaveUp _⟩
  | marking =>
    obtain rfl := Option.some.inj ht
    exact ⟨hb, true, .nothing true, .succeeded⟩
  | forgetting =>
    obtain rfl := Option.some.inj ht
    refine ⟨hb, true, .nothing true, ?_⟩
    simp only [hb]
    exact hs.symm ▸ .halting
  | halting =>
    obtain rfl := Option.some.inj ht
    exact ⟨hb, false, .stopped, hs.symm ▸ .stopped⟩
  | succeeded => cases ht
  | gaveUp => cases ht
  | stopped => cases ht

/-! ## 3. The record -/

/-- Everything that happened came when it might. -/
def Orderly (record : List Happening) : Prop :=
  ∀ before x, before ++ [x] <+: record → Fits before x

theorem orderly_nil : Orderly [] := by
  intro before x hp
  cases before <;> cases List.prefix_nil.mp hp

theorem Passes.orderly {record happened : List Happening} {up up' : Bool}
    (hp : Passes up happened up') (h : ups record = downs record + up.toNat)
    (ho : Orderly record) : Orderly (record ++ happened) := by
  rcases hp.added h with same | ⟨x, same, hx, -⟩
  · rwa [same]
  · rw [same]
    intro before y hy
    rcases List.prefix_concat_iff.mp hy with last | earlier
    · obtain ⟨rfl, rfl⟩ := List.append_inj' last rfl |>.imp id List.singleton_inj.mp
      exact hx
    · exact ho before y earlier

/-- **At every moment**: the balance of the record, what the operator with the lock makes of it, and
that nobody else is inside. -/
structure Balanced (name : String) (m : Operators) : Prop where
  backend : m.engine.bridge.backend = .interpreter name
  orderly : Orderly m.record
  outside : m.holder = none → ups m.record = downs m.record + m.engine.started.toNat
  inside : ∀ i : Nat, m.holder = some i → ∃ o up, m.operators[i]? = some o ∧
    Consistent o.wish m.engine.started up o.stage ∧
      ups m.record = downs m.record + up.toNat
  alone : ∀ (i : Nat) (o : Operator), m.operators[i]? = some o → o.stage.isInside = true →
    m.holder = some i
  /-- The last stop is the only one under way once the engine is dropped. -/
  closing : m.dropped = true → ∃ (k : Nat) (stage : Stage),
    m.operators[k]? = some ⟨.stop, stage⟩ ∧
    (∀ (i : Nat) (o : Operator), m.operators[i]? = some o → k ≠ i → o.stage.isEnded = true) ∧
      (stage.isEnded = true → m.engine.started = false)

theorem balanced_new (version name : String) (extensions : Option Extensions)
    (tree : Files.Tree) : Balanced name (new version (.interpreter name) extensions tree) where
  backend := rfl
  orderly := orderly_nil
  outside _ := rfl
  inside i hi := by cases hi
  alone i o ho := by cases ho
  closing hd := by cases hd

/-- An operator other than the one that takes a step. -/
theorem operator_set_ne {m : Operators} {i j : Nat} {o o' : Operator} (hj : i ≠ j)
    (ho : (m.operators.set i o')[j]? = some o) : m.operators[j]? = some o := by
  rwa [List.getElem?_set_ne hj] at ho

/-- What the operator with the lock makes of the mark and the interpreter. -/
theorem Balanced.consistent {name : String} {m : Operators} (h : Balanced name m) {i : Nat}
    {o : Operator} (ho : m.operators[i]? = some o) (hi : o.stage.isInside = true) :
    ∃ up, Consistent o.wish m.engine.started up o.stage ∧
      ups m.record = downs m.record + up.toNat := by
  obtain ⟨o', up, ho', hc, balance⟩ := h.inside i (h.alone i o ho hi)
  obtain rfl := Option.some.inj (ho.symm.trans ho')
  exact ⟨up, hc, balance⟩

/-- An operator that comes in is not inside, and changes nothing for those that are there. -/
theorem operator_enlist {m : Operators} {wish : Wish} {i : Nat} {o : Operator}
    (ho : (m.enlist wish).operators[i]? = some o) :
    m.operators[i]? = some o ∨ i = m.operators.length ∧ o = ⟨wish, .arrived⟩ := by
  unfold enlist at ho
  rcases Nat.lt_or_ge i m.operators.length with hi | hi
  · rw [List.getElem?_append_left hi] at ho
    exact .inl ho
  · rw [List.getElem?_append_right hi] at ho
    rcases List.mem_singleton.mp (List.mem_of_getElem? ho) with rfl
    obtain ⟨hlt, -⟩ := List.getElem?_eq_some_iff.mp ho
    simp only [List.length_singleton] at hlt
    exact .inr ⟨by omega, rfl⟩

theorem balanced_enlist {name : String} {m : Operators} (h : Balanced name m) (wish : Wish)
    (hd : m.dropped = false) : Balanced name (m.enlist wish) where
  backend := h.backend
  orderly := h.orderly
  outside := h.outside
  inside i hi := by
    obtain ⟨o, up, ho, rest⟩ := h.inside i hi
    obtain ⟨hlt, -⟩ := List.getElem?_eq_some_iff.mp ho
    exact ⟨o, up, (List.getElem?_append_left hlt).trans ho, rest⟩
  alone i o ho hi := by
    rcases operator_enlist ho with ho | ⟨-, rfl⟩
    · exact h.alone i o ho hi
    · cases hi
  closing hd' := by cases hd.symm.trans hd'

theorem balanced_drop {name : String} {m : Operators} (h : Balanced name m)
    (hd : m.dropped = false) (ended : ∀ o ∈ m.operators, o.stage.isEnded = true) :
    Balanced name { m.enlist .stop with dropped := true } := by
  have enlisted := balanced_enlist h .stop hd
  refine ⟨enlisted.backend, enlisted.orderly, enlisted.outside, enlisted.inside, enlisted.alone,
    fun _ => ⟨m.operators.length, .arrived, List.getElem?_concat_length,
      fun i o ho hi => ?_, nofun⟩⟩
  rcases operator_enlist ho with ho | ⟨rfl, -⟩
  · exact ended o (List.mem_of_getElem? ho)
  · exact absurd rfl hi

theorem balanced_world {name : String} {m : Operators} (h : Balanced name m) {engine : Engine}
    (tree : Files.Tree) (he : Undisturbed m.engine engine) :
    Balanced name { m with engine, tree } where
  backend := he.backend.trans h.backend
  orderly := h.orderly
  outside free := he.started ▸ h.outside free
  inside i hi := by
    obtain ⟨o, up, ho, hc, balance⟩ := h.inside i hi
    exact ⟨o, up, ho, he.started ▸ hc, balance⟩
  alone := h.alone
  closing hd := by
    obtain ⟨k, stage, hk, others, stops⟩ := h.closing hd
    exact ⟨k, stage, hk, others, fun ended => he.started.trans (stops ended)⟩

/-- Only the last stop takes steps once the engine is dropped. -/
theorem Balanced.closing_set {name : String} {m : Operators} (h : Balanced name m) {i : Nat}
    {o : Operator} (ho : m.operators[i]? = some o) (hn : o.stage.isEnded = false)
    (hd : m.dropped = true) {stage : Stage} {started : Bool}
    (hs : o.wish = .stop → stage.isEnded = true → started = false) :
    ∃ (k : Nat) (stage' : Stage), (m.operators.set i ⟨o.wish, stage⟩)[k]? = some ⟨.stop, stage'⟩ ∧
      (∀ (j : Nat) (o' : Operator), (m.operators.set i ⟨o.wish, stage⟩)[j]? = some o' → k ≠ j →
        o'.stage.isEnded = true) ∧
      (stage'.isEnded = true → started = false) := by
  obtain ⟨k, stage', hk, others, -⟩ := h.closing hd
  have same : k = i := Decidable.byContradiction fun hne =>
    Bool.false_ne_true (hn.symm.trans (others i o ho hne))
  subst same
  obtain rfl := Option.some.inj (ho.symm.trans hk)
  obtain ⟨hi, -⟩ := List.getElem?_eq_some_iff.mp ho
  exact ⟨k, stage, List.getElem?_set_self hi,
    fun j o' ho' hj => others j o' (operator_set_ne hj ho') hj, hs rfl⟩

theorem balanced_lock {name : String} {m : Operators} (h : Balanced name m) {i : Nat}
    {wish : Wish} (ho : m.operators[i]? = some ⟨wish, .arrived⟩) (free : m.holder = none) :
    Balanced name
      { m with holder := some i, operators := m.operators.set i ⟨wish, .entered⟩ } where
  backend := h.backend
  orderly := h.orderly
  outside := nofun
  inside j hj := by
    obtain rfl := Option.some.inj hj
    obtain ⟨hi, -⟩ := List.getElem?_eq_some_iff.mp ho
    exact ⟨⟨wish, .entered⟩, m.engine.started, List.getElem?_set_self hi, .entered wish _,
      h.outside free⟩
  alone j o' ho' hin := by
    by_cases hj : i = j
    · rw [hj]
    · cases free.symm.trans (h.alone j o' (operator_set_ne hj ho') hin)
  closing hd := h.closing_set ho rfl hd nofun

theorem balanced_go {name : String} {m : Operators} (h : Balanced name m) {i : Nat}
    {answer : Except String Unit} {o : Operator} {turn : Turn} (ho : m.operators[i]? = some o)
    (ht : Operator.advance? m.tree answer m.engine o.wish o.stage = some turn) :
    Balanced name (m.took i o.wish turn) := by
  have inside : o.stage.isInside = true := inside_of_advance ht
  have holds := h.alone i o ho inside
  obtain ⟨up, hc, balance⟩ := h.consistent ho inside
  obtain ⟨backend, up', passes, hc'⟩ := consistent_advance h.backend hc ht
  refine ⟨backend, passes.orderly balance h.orderly, fun free => ?_, fun j hj => ?_,
    fun j o' ho' hin => ?_, fun hd => ?_⟩
  · cases holds.symm.trans free
  · obtain rfl := Option.some.inj (holds.symm.trans hj)
    exact ⟨_, up', operator_took ho o.wish turn, hc', passes.counts balance⟩
  · by_cases hj : i = j
    · exact hj ▸ holds
    · exact h.alone j o' (operator_set_ne hj ho') hin
  · refine h.closing_set ho (isEnded_of_isInside inside) hd fun _ ended => ?_
    cases (isEnded_of_isInside hc'.isInside).symm.trans ended

theorem balanced_unlock {name : String} {m : Operators} (h : Balanced name m) {i : Nat}
    {wish : Wish} {failure : Option Error}
    (ho : m.operators[i]? = some ⟨wish, .leaving failure⟩) :
    Balanced name
      { m with holder := none, operators := m.operators.set i ⟨wish, .ended failure⟩ } := by
  have holds := h.alone i _ ho rfl
  obtain ⟨up, hc, balance⟩ := h.consistent ho rfl
  refine ⟨h.backend, h.orderly, fun _ => hc.agrees ▸ balance, nofun, fun j o' ho' hin => ?_,
    fun hd => h.closing_set ho rfl hd fun hw _ => ?_⟩
  · by_cases hj : i = j
    · subst hj
      obtain ⟨hi, -⟩ := List.getElem?_eq_some_iff.mp ho
      obtain rfl := Option.some.inj ((List.getElem?_set_self hi).symm.trans ho')
      cases hin
    · have held := h.alone j o' (operator_set_ne hj ho') hin
      exact absurd (Option.some.inj (holds.symm.trans held)) hj
  · obtain rfl : wish = .stop := hw
    exact hc.stops

/-- **Every step keeps it.** -/
theorem balanced_step {name : String} {m m' : Operators} {a : Action} (h : Balanced name m)
    (he : Effect m a m') : Balanced name m' := by
  cases he with
  | arrive wish hd => exact balanced_enlist h wish hd
  | drop hd ended => exact balanced_drop h hd ended
  | world _ engine tree _ he => exact balanced_world h tree he
  | lock i answer wish ho free => exact balanced_lock h ho free
  | go i answer o turn ho ht => exact balanced_go h ho ht
  | unlock i answer wish failure ho => exact balanced_unlock h ho

theorem balanced_of_reachable {version name : String} {extensions : Option Extensions}
    {tree : Files.Tree} {m : Operators}
    (hr : Reachable (new version (.interpreter name) extensions tree) m) : Balanced name m :=
  reachable_induction (balanced_new version name extensions tree) balanced_step hr

/-! ## 4. What every step adds to the record -/

/-- **A step adds one happening at most**, which came when it might; and the interpreter is only
started while the engine is not marked as started. -/
theorem Balanced.added {name : String} {m m' : Operators} {a : Action} (h : Balanced name m)
    (he : Effect m a m') : m'.record = m.record ∨ ∃ x, m'.record = m.record ++ [x] ∧
      Fits m.record x ∧ (x ≠ .stopped → m.engine.started = false) := by
  cases he with
  | go i answer o turn ho ht =>
    have inside : o.stage.isInside = true := inside_of_advance ht
    obtain ⟨up, hc, balance⟩ := h.consistent ho inside
    obtain ⟨-, up', passes, -⟩ := consistent_advance h.backend hc ht
    rcases passes.added balance with same | ⟨x, same, fits, down⟩
    · exact .inl same
    · exact .inr ⟨x, same, fits, fun hx => (down hx ▸ hc).unstarted⟩
  | _ => exact .inl rfl

/-- **A start is answered with success just if the engine is started at the moment the lock is
given back.** -/
theorem Balanced.answer {name : String} {m m' : Operators} (h : Balanced name m) {i : Nat}
    {answer : Except String Unit} {failure : Option Error}
    (ho : m.operators[i]? = some ⟨.start, .leaving failure⟩)
    (hs : m.step? (.advance i answer) = some m') :
    m'.holder = none ∧ m'.operators[i]? = some ⟨.start, .ended failure⟩ ∧
      (failure = none ↔ m'.engine.started = true) := by
  rw [step_of_operator ho] at hs
  obtain rfl := Option.some.inj hs
  obtain ⟨up, hc, -⟩ := h.consistent ho rfl
  obtain ⟨hi, -⟩ := List.getElem?_eq_some_iff.mp ho
  exact ⟨rfl, List.getElem?_set_self hi, hc.succeeds_iff⟩

/-- Once the engine is dropped and nobody is under way, it is stopped. -/
theorem Balanced.settled {name : String} {m : Operators} (h : Balanced name m)
    (hd : m.dropped = true) (ended : ∀ o ∈ m.operators, o.stage.isEnded = true) :
    ups m.record = downs m.record := by
  obtain ⟨k, stage, hk, -, stops⟩ := h.closing hd
  have stopped := stops (ended _ (List.mem_of_getElem? hk))
  have free : m.holder = none := by
    cases hh : m.holder with
    | none => rfl
    | some i =>
      obtain ⟨o, up, ho, hc, -⟩ := h.inside i hh
      cases (isEnded_of_isInside hc.isInside).symm.trans (ended o (List.mem_of_getElem? ho))
  have balance := h.outside free
  rwa [stopped] at balance

/-- **Starts and stops in balance.** -/
structure LifecycleBalance (m : Operators) : Prop where
  /-- While the lock is free, there is one start more than stops just if the engine is started. -/
  free : m.holder = none → ups m.record = downs m.record + m.engine.started.toNat
  /-- The interpreter was started only while it was down and stopped only while it was up. -/
  orderly : Orderly m.record
  /-- So it will be, and nothing but a stop happens while the engine is started. -/
  next : ∀ a m', m.step? a = some m' → m'.record = m.record ∨ ∃ x, m'.record = m.record ++ [x] ∧
    Fits m.record x ∧ (x ≠ .stopped → m.engine.started = false)
  /-- A start gives the lock back with success just if the engine is started at that moment. -/
  answer : ∀ i answer failure m', m.operators[i]? = some ⟨.start, .leaving failure⟩ →
    m.step? (.advance i answer) = some m' →
      m'.holder = none ∧ m'.operators[i]? = some ⟨.start, .ended failure⟩ ∧
        (failure = none ↔ m'.engine.started = true)
  /-- Once the engine is dropped and nobody is under way, it was stopped as often as started. -/
  dropped : m.dropped = true → (∀ o ∈ m.operators, o.stage.isEnded = true) →
    ups m.record = downs m.record

/-- **The interpreter is started and stopped in balance**, whoever starts and stops the engine,
whatever the interpreter answers and however the steps interleave. -/
theorem lifecycle_balance (version name : String) (extensions : Option Extensions)
    (tree : Files.Tree) {m : Operators}
    (hr : Reachable (new version (.interpreter name) extensions tree) m) : LifecycleBalance m := by
  have h := balanced_of_reachable hr
  refine ⟨h.outside, h.orderly, fun a m' hs => h.added (effect_of_step hs), ?_, h.settled⟩
  intro i answer failure m' ho hs
  exact h.answer ho hs

theorem reachable_play {first m : Operators} (hr : Reachable first m) (actions : List Action) :
    Reachable first (Steps.play step? m actions) :=
  Steps.play_keeps (fun a hr hs => .step hr a hs) hr actions

/-- An extension that is required and not there. -/
def requiringOne : Extensions :=
  { version := "8.3", directory := "/ext", required := ["redis"], optional := [], loaded := [] }

/-- The directory with that extension. -/
def withLibrary : Files.Tree :=
  { entries := [(["ext", "redis.so"], .sharedLibrary true)] }

/-- One start fails at the extension while another waits for the lock, which then fails at the
interpreter. The file comes, and a third start succeeds; a fourth finds nothing to do. -/
def restarting : List Action :=
  [.arrive .start, .arrive .start, .advance 0 (.ok ()), .advance 0 (.ok ()), .advance 1 (.ok ()),
    .advance 0 (.ok ()), .advance 0 (.ok ()), .advance 0 (.ok ()), .advance 0 (.ok ()),
    .advance 1 (.ok ()), .advance 1 (.ok ()), .advance 1 (.error "no"), .advance 1 (.ok ()),
    .files withLibrary, .arrive .start, .advance 2 (.ok ()), .advance 2 (.ok ()),
    .advance 2 (.ok ()), .advance 2 (.ok ()), .advance 2 (.ok ()), .advance 2 (.ok ()),
    .advance 2 (.ok ()), .advance 2 (.ok ()), .arrive .start, .advance 3 (.ok ()),
    .advance 3 (.ok ()), .advance 3 (.ok ())]

/-- The engine is dropped. -/
def dropping : List Action :=
  [.drop, .advance 4 (.ok ()), .advance 4 (.ok ()), .advance 4 (.ok ()), .advance 4 (.ok ()),
    .advance 4 (.ok ())]

/-- The engine while it is started, after two starts that failed. -/
def restarted : Operators :=
  Steps.play step? (new "8.3" (.interpreter "test") (some requiringOne) (.ofDirectory []))
    restarting

theorem lifecycle_balance_restarted :
    restarted.engine.started = true ∧ ups restarted.record = downs restarted.record + 1 ∧
      restarted.record = [.cameUp, .stopped, .failed "no", .cameUp] ∧
      ups (Steps.play step? restarted dropping).record =
        downs (Steps.play step? restarted dropping).record := by
  have reached : Reachable
      (new "8.3" (.interpreter "test") (some requiringOne) (.ofDirectory [])) restarted :=
    reachable_play .start restarting
  have started : restarted.engine.started = true := by decide +kernel
  have now := lifecycle_balance "8.3" "test" (some requiringOne) (.ofDirectory []) reached
  have later := lifecycle_balance "8.3" "test" (some requiringOne) (.ofDirectory [])
    (reachable_play reached dropping)
  refine ⟨started, ?_, by decide +kernel, later.dropped (by decide +kernel) (by decide +kernel)⟩
  rw [now.free (by decide +kernel), started]
  rfl

end Operators

end ScriptGateway.Engine
