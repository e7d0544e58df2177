/-!
# Steps one after another

A machine gives the state after a step, if the step can be taken. A list of steps leads to a state
by itself, and whatever each step keeps holds of that state.

* `play`: the state that steps lead to.
* `play_keeps`: what every step keeps.
* `passes`, `play_passing`: what every step keeps that passes a test where it is taken.
-/

namespace ScriptGateway.Steps

universe u v

variable {State : Type u} {Action : Type v} {step? : State → Action → Option State}

/-- Carries out steps one after another. An impossible one changes nothing. -/
def play (step? : State → Action → Option State) (s : State) (actions : List Action) : State :=
  actions.foldl (fun s a => (step? s a).getD s) s

/-- Whether steps that are carried out one after another pass a test, each where it is taken. -/
def passes (step? : State → Action → Option State) (test : State → Action → Bool) (s : State) :
    List Action → Bool
  | [] => true
  | a :: actions => test s a && passes step? test ((step? s a).getD s) actions

/-- **What every step keeps that passes the test holds after steps that pass it.** -/
theorem play_passing {P : State → Prop} {test : State → Action → Bool}
    (step : ∀ {s s' : State} (a : Action), P s → step? s a = some s' → test s a = true → P s')
    {s : State} (h : P s) {actions : List Action} (ht : passes step? test s actions = true) :
    P (play step? s actions) := by
  induction actions generalizing s with
  | nil => exact h
  | cons a actions ih =>
    obtain ⟨first, rest⟩ := Bool.and_eq_true_iff.mp ht
    show P (play step? ((step? s a).getD s) actions)
    cases hs : step? s a with
    | none =>
      rw [hs] at rest
      exact ih h rest
    | some s' =>
      rw [hs] at rest
      exact ih (step a h hs first) rest

/-- **What every step keeps holds after any steps.** -/
theorem play_keeps {P : State → Prop}
    (step : ∀ {s s' : State} (a : Action), P s → step? s a = some s' → P s')
    {s : State} (h : P s) (actions : List Action) : P (play step? s actions) := by
  have all : passes step? (fun _ _ => true) s actions = true := by
    clear h
    induction actions generalizing s with
    | nil => rfl
    | cons a actions ih => exact ih
  exact play_passing (fun a h hs _ => step a h hs) h all

end ScriptGateway.Steps
