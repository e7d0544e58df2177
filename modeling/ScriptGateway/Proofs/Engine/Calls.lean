import Mathlib.Logic.Relation
import ScriptGateway.Engine.Calls
import ScriptGateway.Proofs.Engine.Execution
/-!
# What one step of a call does

A step of a call refuses it, binds its thread, goes on with a session, or releases the thread. The
steps of a call that nobody disturbs come to what the bridge does when it executes a script.

* `Effect h m a m'`: the rules, `effect_of_step`: the machine follows them.
* `reachable_induction`: what every rule keeps holds of all reachable states.
* `leads_execute`: a call on its own is an execution.
-/

namespace ScriptGateway.Engine

open Script (Context Host Session Variable)

variable {σ : Type}

/-! ## 1. Steps -/

/-- A session is about one script. -/
theorem script_perform (h : Host σ) (op : Script.Operation) (s : Session σ) :
    (Session.perform h op s).2.script = s.script := by
  cases op with
  | write data =>
    simp only [Session.perform, Session.write]
    split <;> rfl
  | readBody size =>
    simp only [Session.perform, Session.readBody]
    split
    · rfl
    · split <;> rfl
  | _ => rfl

namespace Call

/-- Why a call is refused when it comes in. -/
def Refused (b : Bridge) (c : Call) (e : Error) : Prop :=
  c.script = "" ∧ e = .emptyScript ∨
    c.script ≠ "" ∧ b.active.isActive c.context.thread = true ∧ e = .threadBusy c.context.thread

/-- A call that goes on with its session: it holds its thread before and after. -/
structure Continues (c c' : Call) : Prop where
  held : c.isHolding = true
  holds : c'.isHolding = true
  script : c'.script = c.script
  thread : c'.context.thread = c.context.thread
  unrefused : ∀ outcome, c'.phase = .leaving outcome → ∀ e, outcome ≠ .refused e

/-- The bridge with a thread bound for a call. -/
def bound (b : Bridge) (c : Call) : Bridge :=
  { b with active := ⟨Activation.insert c.context.thread c.script b.active.bindings⟩ }

/-- The bridge with the thread of a call released. -/
def released (b : Bridge) (c : Call) : Bridge :=
  { b with active := b.active.release c.context.thread }

/-- The call once its thread is bound. -/
def opened (c : Call) : Call :=
  { c with context := c.context.resetOutput, phase := .announcing c.context.resetOutput.vars }

/-- **What one step of a call does.** -/
inductive Move (b : Bridge) (host : σ) (c : Call) : Turn σ → Prop where
  | refuse (e : Error) (hp : c.phase = .arrived) (he : c.Refused b e) :
      Move b host c (c.refuse b host e)
  | bind (hp : c.phase = .arrived) (hs : c.script ≠ "")
      (hf : b.active.isActive c.context.thread = false) :
      Move b host c { bridge := c.bound b, host, call := c.opened }
  | go (host' : σ) (c' : Call) (hc : c.Continues c') :
      Move b host c { bridge := b, host := host', call := c' }
  | release (outcome : Bridge.Outcome) (hp : c.phase = .leaving outcome) :
      Move b host c
        { bridge := c.released b, host, call := { c with phase := .ended outcome } }

theorem move_enter (b : Bridge) (host : σ) {c : Call} (hp : c.phase = .arrived) :
    Move b host c (c.enter b host) := by
  unfold enter
  split
  · next hs => exact .refuse _ hp (.inl ⟨hs, rfl⟩)
  · next hs =>
    unfold Activation.bind?
    cases hf : b.active.isActive c.context.thread with
    | true => exact .refuse _ hp (.inr ⟨hs, hf, rfl⟩)
    | false => exact .bind hp hs hf

theorem move_settle (h : Host σ) (b : Bridge) (host : σ) {c : Call} (hc : c.isHolding = true)
    (ending : Script.Ending) : Move b host c (c.settle h b host ending) := by
  refine .go _ _ ⟨hc, rfl, rfl, ?_, ?_⟩
  · exact congrArg Context.thread (Bridge.context_settle h b.backend ending (c.session host))
  · intro outcome ho e
    obtain rfl := Phase.leaving.inj ho
    exact Bridge.settle_ne_refused h b.backend ending (c.session host) e

/-- **Whatever a step of a call does is one of the rules.** -/
theorem move_of_advance {h : Host σ} {b : Bridge} {host : σ} {c : Call} {turn : Turn σ}
    (ha : c.advance? h b host = some turn) : Move b host c turn := by
  unfold advance? at ha
  have holds (phase : Phase) (hp : c.phase = phase)
      (hh : ({ c with phase } : Call).isHolding = true) : c.isHolding = true := by
    rw [← hp] at hh
    exact hh
  split at ha
  · next hp =>
    obtain rfl := Option.some.inj ha
    exact move_enter b host hp
  · next name value vars hp =>
    obtain rfl := Option.some.inj ha
    exact .go _ _ ⟨holds _ hp rfl, rfl, rfl, rfl, nofun⟩
  · next hp =>
    obtain rfl := Option.some.inj ha
    exact .go _ _ ⟨holds _ hp rfl, rfl, rfl, rfl, nofun⟩
  · next op next hp =>
    obtain rfl := Option.some.inj ha
    exact .go _ _ ⟨holds _ hp rfl, rfl, rfl, Session.thread_perform h op (c.session host), nofun⟩
  · next hp =>
    obtain rfl := Option.some.inj ha
    exact move_settle h b host (holds _ hp rfl) _
  · next message hp =>
    obtain rfl := Option.some.inj ha
    exact move_settle h b host (holds _ hp rfl) _
  · next message hp =>
    obtain rfl := Option.some.inj ha
    exact move_settle h b host (holds _ hp rfl) _
  · next outcome hp =>
    obtain rfl := Option.some.inj ha
    exact .release outcome hp
  · cases ha

theorem continues_of_unwind {c c' : Call} {message : String} (hu : c.unwind? message = some c') :
    c.Continues c' := by
  unfold unwind? at hu
  split at hu
  · next held =>
    obtain rfl := Option.some.inj hu
    refine ⟨held, rfl, rfl, rfl, fun outcome ho e => ?_⟩
    obtain rfl := Phase.leaving.inj ho
    exact nofun
  · cases hu

end Call

namespace Calls

/-- The call that a step concerns, if it was made before. -/
def Action.call? : Action → Option Nat
  | .arrive _ _ _ => none
  | .advance i => some i
  | .unwind i _ => some i

/-- The state after a step of one call. -/
def took (m : Calls σ) (i : Nat) (turn : Call.Turn σ) : Calls σ :=
  { bridge := turn.bridge, host := turn.host, calls := m.calls.set i turn.call }

/-- **What one step does.** -/
inductive Effect (m : Calls σ) : Action → Calls σ → Prop where
  | arrive (context : Context) (script : String) (program : Script.Program) :
      Effect m (.arrive context script program)
        { m with calls := m.calls ++ [.arriving context script program] }
  | move (a : Action) (i : Nat) (c : Call) (turn : Call.Turn σ) (ha : a.call? = some i)
      (hc : m.calls[i]? = some c) (hm : c.Move m.bridge m.host turn) :
      Effect m a (m.took i turn)

/-- **Whatever a step does is one of the rules.** -/
theorem effect_of_step {h : Host σ} {m m' : Calls σ} {a : Action} (hs : m.step? h a = some m') :
    Effect m a m' := by
  cases a with
  | arrive context script program => exact Option.some.inj hs ▸ .arrive context script program
  | advance i =>
    obtain ⟨c, hc, hs⟩ := Option.bind_eq_some_iff.mp hs
    obtain ⟨turn, ha, rfl⟩ := Option.map_eq_some_iff.mp hs
    exact .move _ i c turn rfl hc (Call.move_of_advance ha)
  | unwind i message =>
    obtain ⟨c, hc, hs⟩ := Option.bind_eq_some_iff.mp hs
    obtain ⟨c', hu, rfl⟩ := Option.map_eq_some_iff.mp hs
    exact .move _ i c _ rfl hc (.go m.host c' (Call.continues_of_unwind hu))

/-- **The induction over all orders of steps.** -/
theorem reachable_induction {h : Host σ} {first : Calls σ} {P : Calls σ → Prop} (start : P first)
    (step : ∀ {m m' : Calls σ} {a : Action}, P m → Effect m a m' → P m') {m : Calls σ}
    (hr : Reachable h first m) : P m := by
  induction hr with
  | start => exact start
  | step _ a hs ih => exact step ih (effect_of_step hs)

end Calls

/-! ## 2. One call on its own -/

namespace Call

/-- Where steps of a call lead, if no other call takes one. -/
def Leads (h : Host σ) : Turn σ → Turn σ → Prop :=
  Relation.ReflTransGen fun t t' => t.call.advance? h t.bridge t.host = some t'

theorem Leads.head {h : Host σ} {t t' t'' : Turn σ}
    (ha : t.call.advance? h t.bridge t.host = some t') (hl : Leads h t' t'') : Leads h t t'' :=
  Relation.ReflTransGen.head ha hl

/-- The host is told all variables, and then the interpreter runs. -/
theorem leads_announcing (h : Host σ) (b : Bridge) (c : Call) (vars : List Variable) (host : σ) :
    Leads h { bridge := b, host, call := { c with phase := .announcing vars } }
      { bridge := b
        host := Bridge.announce h c.context.thread vars host
        call := { c with phase := .running (c.programOn b.backend) } } := by
  induction vars generalizing host with
  | nil => exact Relation.ReflTransGen.single rfl
  | cons var vars ih =>
    obtain ⟨name, value⟩ := var
    exact Leads.head rfl (ih (h.registerVariable c.context.thread name value host))

/-- The session of a call that a session of the same script went on with is that session. -/
theorem session_of_script {c : Call} {s : Session σ} (hs : s.script = c.script) :
    ({ c with context := s.context } : Call).session s.host = s := by
  unfold session
  rw [← hs]

/-- The interpreter performs its operations one by one, and the call has its outcome. -/
theorem leads_running (h : Host σ) (b : Bridge) (p : Script.Program) (c : Call) (host : σ) :
    Leads h { bridge := b, host, call := { c with phase := .running p } }
      (c.resume b
        (Bridge.settle h b.backend (p.run h (c.session host)).1 (p.run h (c.session host)).2).2
        (.leaving
          (Bridge.settle h b.backend (p.run h (c.session host)).1
            (p.run h (c.session host)).2).1)) := by
  induction p generalizing c host with
  | done => exact Relation.ReflTransGen.single rfl
  | fail message => exact Relation.ReflTransGen.single rfl
  | panic message => exact Relation.ReflTransGen.single rfl
  | ask op next ih =>
    have rest := ih (Session.perform h op (c.session host)).1
      { c with context := (Session.perform h op (c.session host)).2.context }
      (Session.perform h op (c.session host)).2.host
    rw [session_of_script (script_perform h op (c.session host))] at rest
    exact Leads.head rfl rest

/-- What an interpreter that makes a call's program of its script does on a backend. -/
theorem run_programOn (h : Host σ) (backend : Backend) (c : Call) (s : Session σ) :
    Bridge.run h backend (fun _ => c.program) s = (c.programOn backend).run h s := by
  cases backend <;> rfl

/-- **A call that nobody disturbs is an execution.** -/
theorem leads_execute (h : Host σ) (b : Bridge) (context : Context) (script : String)
    (program : Script.Program) (host : σ) :
    Leads h { bridge := b, host, call := .arriving context script program }
      { bridge := (b.execute h (fun _ => program) context script host).bridge
        host := (b.execute h (fun _ => program) context script host).host
        call := {
          script
          context := (b.execute h (fun _ => program) context script host).context
          program
          phase := .ended (b.execute h (fun _ => program) context script host).outcome } } := by
  have entered : Leads h { bridge := b, host, call := .arriving context script program }
      ((arriving context script program).enter b host) := Relation.ReflTransGen.single rfl
  refine Relation.ReflTransGen.trans entered ?_
  unfold enter Bridge.execute Bridge.begin?
  by_cases hs : script = ""
  · simp only [arriving, hs, if_true]
    exact .refl
  · simp only [arriving, hs, if_false]
    cases hb : b.active.bind? context.thread script with
    | error e => exact .refl
    | ok active =>
      have told := leads_announcing h { b with active }
        (arriving context.resetOutput script program) context.resetOutput.vars host
      have ran := leads_running h { b with active }
        ((arriving context.resetOutput script program).programOn b.backend)
        (arriving context.resetOutput script program)
        (Bridge.announce h context.thread context.resetOutput.vars host)
      rw [← run_programOn] at ran
      exact Relation.ReflTransGen.tail (Relation.ReflTransGen.trans told ran) rfl

end Call

end ScriptGateway.Engine
