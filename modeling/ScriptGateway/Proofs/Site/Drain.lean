import ScriptGateway.Proofs.Steps
import ScriptGateway.Site.Drain
/-!
# What a count of zero means

A connection is counted by the first step of its task, and not when it is accepted. So the count
is that of the tasks which have begun and not finished, and says nothing of tasks that were
started only.

* `Effect c a c'`: the rules, `effect_of_step`: the machine follows them.
* `counted_of_reachable`: how many connections are active.
* `drained_iff`: what a count of zero means once the loop has stopped.
* `drain_waits`: if nobody looks before every task has begun, whoever is told that no connection is
  active finds every connection finished.
* `drained_early`: the answer comes while a connection waits to be served.
-/

namespace ScriptGateway.Connections

/-! ## 1. Steps -/

/-- Where the loop goes when it starts no task. -/
inductive LoopMove (c : Connections) : Action → Acceptor → Prop where
  | run (h : c.acceptor = .stopped) : LoopMove c .run .starting
  | accept (h : c.acceptor = .accepting) : LoopMove c .accept .holding
  | enter (h : c.acceptor = .starting) (hs : c.stopAsked = false) : LoopMove c .look .accepting
  | look (h : c.acceptor = .starting ∨ c.acceptor = .accepting) (hs : c.stopAsked = true) :
      LoopMove c .look .stopped
  | abandon (h : c.acceptor = .accepting) : LoopMove c .abandon .stopped

/-- **What one step does.** -/
inductive Effect (c : Connections) : Action → Connections → Prop where
  | loop (a : Action) (acceptor : Acceptor) (h : LoopMove c a acceptor) :
      Effect c a { c with acceptor }
  | spawn (h : c.acceptor = .holding) :
      Effect c .spawn { c with acceptor := .accepting, tasks := c.tasks ++ [.started] }
  | begin (i : Nat) (h : c.tasks[i]? = some .started) :
      Effect c (.task i) { c with tasks := c.tasks.set i .active, active := c.active + 1 }
  | finish (i : Nat) (h : c.tasks[i]? = some .active) :
      Effect c (.task i) { c with tasks := c.tasks.set i .finished, active := c.active - 1 }
  | ask : Effect c .askToStop { c with stopAsked := true }
  | wait : Effect c .wait { c with waiters := c.waiters ++ [.polling] }
  | poll (i : Nat) (h : c.waiters[i]? = some .polling) :
      Effect c (.poll i) { c with waiters := c.waiters.set i (.saw c.active) }
  | decide (i : Nat) (timeIsUp : Bool) (active : Nat) (h : c.waiters[i]? = some (.saw active)) :
      Effect c (.decide i timeIsUp)
        { c with waiters := c.waiters.set i (decision active timeIsUp) }

/-- **Whatever a step does is one of the rules.** -/
theorem effect_of_step {c c' : Connections} {a : Action} (hs : c.step? a = some c') :
    Effect c a c' := by
  cases a with
  | run =>
    simp only [step?] at hs
    split at hs
    · next h => exact Option.some.inj hs ▸ .loop _ _ (.run h)
    · cases hs
  | look =>
    simp only [step?] at hs
    split at hs
    · next h =>
      by_cases asked : c.stopAsked = true
      · rw [if_pos asked] at hs
        exact Option.some.inj hs ▸ .loop _ _ (.look (.inl h) asked)
      · rw [if_neg asked] at hs
        exact Option.some.inj hs ▸ .loop _ _ (.enter h (Bool.eq_false_iff.mpr asked))
    · next h =>
      split at hs
      · next asked => exact Option.some.inj hs ▸ .loop _ _ (.look (.inr h) asked)
      · cases hs
    · cases hs
  | accept =>
    simp only [step?] at hs
    split at hs
    · next h => exact Option.some.inj hs ▸ .loop _ _ (.accept h)
    · cases hs
  | spawn =>
    simp only [step?] at hs
    split at hs
    · next h => exact Option.some.inj hs ▸ .spawn h
    · cases hs
  | abandon =>
    simp only [step?] at hs
    split at hs
    · next h => exact Option.some.inj hs ▸ .loop _ _ (.abandon h)
    · cases hs
  | task i =>
    obtain ⟨t, ht, hs⟩ := Option.bind_eq_some_iff.mp hs
    cases t with
    | started => exact Option.some.inj hs ▸ .begin i ht
    | active => exact Option.some.inj hs ▸ .finish i ht
    | finished => cases hs
  | askToStop => exact Option.some.inj hs ▸ .ask
  | wait => exact Option.some.inj hs ▸ .wait
  | poll i =>
    simp only [step?] at hs
    split at hs
    · next h => exact Option.some.inj hs ▸ .poll i h
    · cases hs
  | decide i timeIsUp =>
    simp only [step?] at hs
    split at hs
    · next active h => exact Option.some.inj hs ▸ .decide i timeIsUp active h
    · cases hs

/-! ## 2. What is counted -/

/-- Every task has taken its first step. -/
def AllBegun (c : Connections) : Prop :=
  ∀ t ∈ c.tasks, t ≠ .started

/-- Every connection that was accepted has been handled to its end. -/
def AllFinished (c : Connections) : Prop :=
  c.acceptor ≠ .holding ∧ ∀ t ∈ c.tasks, t = .finished

instance (c : Connections) : Decidable c.AllBegun :=
  inferInstanceAs (Decidable (∀ t ∈ c.tasks, t ≠ .started))

instance (c : Connections) : Decidable c.AllFinished :=
  inferInstanceAs (Decidable (c.acceptor ≠ .holding ∧ ∀ t ∈ c.tasks, t = .finished))

/-- The connections that are counted are those whose tasks are active. -/
def Counted (c : Connections) : Prop :=
  c.active = c.tasks.count .active

theorem counted_step {c c' : Connections} {a : Action} (h : Counted c) (he : Effect c a c') :
    Counted c' := by
  unfold Counted at h ⊢
  cases he with
  | loop a acceptor hm => exact h
  | spawn ha =>
    show c.active = (c.tasks ++ [Task.started]).count Task.active
    rw [List.count_append, h]
    rfl
  | begin i ht =>
    obtain ⟨hi, ht⟩ := List.getElem?_eq_some_iff.mp ht
    show c.active + 1 = (c.tasks.set i .active).count .active
    rw [List.count_set hi, ht, h]
    rfl
  | finish i ht =>
    have pos : 0 < c.tasks.count .active := List.count_pos_iff.mpr (List.mem_of_getElem? ht)
    obtain ⟨hi, ht⟩ := List.getElem?_eq_some_iff.mp ht
    show c.active - 1 = (c.tasks.set i .finished).count .active
    rw [List.count_set hi, ht, h]
    simp
  | ask => exact h
  | wait => exact h
  | poll i hi => exact h
  | decide i timeIsUp active hi => exact h

/-- **As many connections are active as there are tasks that have begun and not finished.** -/
theorem counted_of_reachable {c : Connections} (h : Reachable c) : Counted c := by
  induction h with
  | start => rfl
  | step _ a hs ih => exact counted_step ih (effect_of_step hs)

/-- **Once the loop has stopped and no connection is active, all are finished just if all have
begun.** -/
theorem drained_iff {c : Connections} (hc : Counted c) (stopped : c.acceptor = .stopped)
    (none : c.active = 0) : AllFinished c ↔ AllBegun c := by
  have inactive : Task.active ∉ c.tasks := by
    rw [← List.count_eq_zero, ← hc, none]
  constructor
  · rintro ⟨-, finished⟩ t ht
    rw [finished t ht]
    exact Task.noConfusion
  · intro begun
    refine ⟨by rw [stopped]; exact Acceptor.noConfusion, fun t ht => ?_⟩
    cases t with
    | started => exact absurd rfl (begun _ ht)
    | active => exact absurd ht inactive
    | finished => rfl

/-! ## 3. Who is told that nothing is active -/

/-- Whether a step is one of those that nobody is misled by: nobody looks how many connections
are active before the loop has stopped and every task has begun, and the loop is not run again
before it was asked to stop. -/
def isCalm (c : Connections) : Action → Bool
  | .poll _ => decide (c.acceptor = .stopped ∧ AllBegun c)
  | .run => c.stopAsked
  | _ => true

/-- The states that such steps lead to. -/
inductive CalmlyReachable : Connections → Prop where
  | start : CalmlyReachable new
  | step {c c' : Connections} (h : CalmlyReachable c) (a : Action) (hs : c.step? a = some c')
      (calm : c.isCalm a = true) : CalmlyReachable c'

theorem CalmlyReachable.reachable {c : Connections} (h : CalmlyReachable c) : Reachable c := by
  induction h with
  | start => exact .start
  | step _ a hs _ ih => exact .step ih a hs

/-- Whether someone who waits has seen that no connection is active, or was told so. -/
def sawNone : Waiter → Bool
  | .saw active => active == 0
  | .answered drained => drained
  | .polling => false

/-- The loop accepts nothing more. -/
def Closed (c : Connections) : Prop :=
  c.acceptor = .stopped ∨ c.acceptor = .starting ∧ c.stopAsked = true

/-- **Once someone saw that no connection is active, all are finished** and none is to come. -/
def Drained (c : Connections) : Prop :=
  ∀ w ∈ c.waiters, sawNone w = true → Closed c ∧ AllFinished c

theorem sawNone_decision {active : Nat} {timeIsUp : Bool}
    (h : sawNone (decision active timeIsUp) = true) : active = 0 := by
  unfold decision at h
  split at h
  · assumption
  · split at h <;> cases h

theorem drained_step {c c' : Connections} {a : Action} (hc : Counted c) (h : Drained c)
    (calm : c.isCalm a = true) (he : Effect c a c') : Drained c' := by
  intro w hw saw
  cases he with
  | loop _ acceptor hm =>
    obtain ⟨closed, -, finished⟩ := h w hw saw
    cases hm with
    | run hs => exact ⟨.inr ⟨rfl, calm⟩, Acceptor.noConfusion, finished⟩
    | accept ha => rcases closed with hs | ⟨hs, -⟩ <;> cases ha.symm.trans hs
    | enter ha hs =>
      rcases closed with hs' | ⟨-, hs'⟩
      · cases ha.symm.trans hs'
      · cases hs.symm.trans hs'
    | look _ _ => exact ⟨.inl rfl, Acceptor.noConfusion, finished⟩
    | abandon _ => exact ⟨.inl rfl, Acceptor.noConfusion, finished⟩
  | spawn ha =>
    obtain ⟨closed, -⟩ := h w hw saw
    rcases closed with hs | ⟨hs, -⟩ <;> cases ha.symm.trans hs
  | begin i ht =>
    obtain ⟨-, -, finished⟩ := h w hw saw
    cases finished _ (List.mem_of_getElem? ht)
  | finish i ht =>
    obtain ⟨-, -, finished⟩ := h w hw saw
    cases finished _ (List.mem_of_getElem? ht)
  | ask =>
    obtain ⟨closed, finished⟩ := h w hw saw
    exact ⟨closed.imp_right fun hs => ⟨hs.1, rfl⟩, finished⟩
  | wait =>
    rcases List.mem_append.mp hw with hw | hw
    · exact h w hw saw
    · obtain rfl := List.mem_singleton.mp hw
      cases saw
  | poll i hi =>
    rcases List.mem_or_eq_of_mem_set hw with hw | rfl
    · exact h w hw saw
    · obtain ⟨stopped, begun⟩ := of_decide_eq_true calm
      exact ⟨.inl stopped, (drained_iff hc stopped (beq_iff_eq.mp saw)).mpr begun⟩
  | decide i timeIsUp active hi =>
    rcases List.mem_or_eq_of_mem_set hw with hw | rfl
    · exact h w hw saw
    · obtain rfl := sawNone_decision saw
      exact h _ (List.mem_of_getElem? hi) rfl

theorem drained_of_calm {c : Connections} (h : CalmlyReachable c) : Drained c := by
  induction h with
  | start => exact fun w hw => absurd hw List.not_mem_nil
  | step hr a hs calm ih =>
    exact drained_step (counted_of_reachable hr.reachable) ih calm (effect_of_step hs)

/-- **What waiting for the end is worth.** Who looks once the loop has stopped and sees that no
connection is active may go on just if every task has begun; and if nobody looks before that, then
whoever is told that no connection is active finds every connection finished. -/
theorem drain_waits (c : Connections) (i : Nat) :
    (∀ c', Reachable c → c.acceptor = .stopped → c.step? (.poll i) = some c' →
      c'.waiters[i]? = some (.saw 0) → (AllFinished c' ↔ AllBegun c')) ∧
    (CalmlyReachable c → c.waiters[i]? = some (.answered true) → Closed c ∧ AllFinished c) := by
  constructor
  · intro c' hr stopped hs saw
    have counted := counted_of_reachable (.step hr _ hs)
    cases effect_of_step hs with
    | loop _ _ hm => cases hm
    | poll _ hi =>
      obtain ⟨hlt, -⟩ := List.getElem?_eq_some_iff.mp hi
      have none : c.active = 0 := by simpa [hlt] using saw
      exact drained_iff counted stopped none
  · intro hr told
    exact drained_of_calm hr (.answered true) (List.mem_of_getElem? told) rfl

theorem reachable_play {c : Connections} (h : Reachable c) (actions : List Action) :
    Reachable (Steps.play step? c actions) :=
  Steps.play_keeps (fun a h hs => .step h a hs) h actions

theorem calm_play {c : Connections} (h : CalmlyReachable c) {actions : List Action}
    (calm : Steps.passes step? isCalm c actions = true) :
    CalmlyReachable (Steps.play step? c actions) :=
  Steps.play_passing (fun a h hs calm => .step h a hs calm) h calm

/-- A connection is accepted, the loop is dropped while it is handled, and someone who waits sees
it active before it is finished. -/
def finishedLate : Connections :=
  Steps.play step? new
    [.look, .accept, .spawn, .task 0, .abandon, .askToStop, .wait, .poll 0, .decide 0 false,
      .task 0]

/-- The second look. -/
def lookedAgain : Connections :=
  Steps.play step? finishedLate [.poll 0]

theorem drain_waits_lookedAgain :
    lookedAgain.waiters[0]? = some (.saw 0) ∧ AllFinished lookedAgain ∧
      (Steps.play step? lookedAgain [.decide 0 false]).waiters[0]? = some (.answered true) ∧
      Closed (Steps.play step? lookedAgain [.decide 0 false]) := by
  have late : CalmlyReachable finishedLate := calm_play .start (by decide)
  have again : CalmlyReachable lookedAgain := calm_play late (by decide)
  have saw : lookedAgain.waiters[0]? = some (.saw 0) := by decide
  have told :
      (Steps.play step? lookedAgain [.decide 0 false]).waiters[0]? = some (.answered true) := by
    decide
  have begun : AllBegun lookedAgain := by decide
  have last : CalmlyReachable (Steps.play step? lookedAgain [.decide 0 false]) :=
    calm_play again (by decide)
  obtain ⟨seen, -⟩ := drain_waits finishedLate 0
  obtain ⟨-, answered⟩ := drain_waits (Steps.play step? lookedAgain [.decide 0 false]) 0
  have finished := (seen lookedAgain late.reachable (by decide) rfl saw).mpr begun
  exact ⟨saw, finished, told, (answered last told).1⟩

/-! ## 4. A look too early -/

/-- A connection was accepted and its task started when the loop was told to stop. -/
def startedLast : Connections :=
  Steps.play step? new [.look, .accept, .spawn, .askToStop, .look]

/-- Someone waits for the end before the task has begun. -/
def toldEarly : Connections :=
  Steps.play step? startedLast [.wait, .poll 0, .decide 0 false]

/-- **The answer comes while a connection waits to be served**: the loop has stopped before anyone
waits, no connection is counted, and the task of the only one is still to begin. -/
theorem drained_early :
    Reachable startedLast ∧ startedLast.acceptor = .stopped ∧ startedLast.waiters = [] ∧
      Reachable toldEarly ∧ toldEarly.acceptor = .stopped ∧
      toldEarly.waiters[0]? = some (.answered true) ∧ ¬ AllFinished toldEarly ∧
      (toldEarly.step? (.task 0)).isSome = true := by
  have started : Reachable startedLast := reachable_play .start _
  exact ⟨started, by decide, by decide, reachable_play started _, by decide, by decide,
    by decide, by decide⟩

end ScriptGateway.Connections
