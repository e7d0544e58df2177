import Mathlib.Data.List.Induction
import ScriptGateway.Proofs.Executor.Host
import ScriptGateway.Proofs.Script.Recording
/-!
# Slots of the workers' host

The calls for one thread get the answers that they get when they are made alone, whatever calls for
other threads stand between them. Taking out what was noted gives the calls since the slot was
cleared last. A thread without a slot gets empty answers, and its calls change nothing.

* `Call`, `Answer`, `perform`: a call of the host; `transcript`: calls and their answers.
* `answer_perform`, `slot?_perform_self`, `keeps_perform`: what a call answers and changes.
* `transcript_filter`: the calls for one thread on their own.
* `Recorded`, `recorded_after`: what a slot holds after calls.
* `slots_independent`: all of it.
-/

namespace ScriptGateway.Executor.WorkerHost

open Script (HostCall Variable)

/-! ## 1. Calls and answers -/

/-- A call of the workers' host: a script's operation, or one around a request. -/
inductive Call where
  | begin (thread : Int32) (cookies : Option String)
  | operation (call : HostCall)
  | finish (thread : Int32)
  deriving DecidableEq

namespace Call

/-- The thread that a call is for. -/
def thread : Call → Int32
  | begin thread _ => thread
  | operation call => call.thread
  | finish thread => thread

/-- The operation of a script that a call is. -/
def operation? : Call → Option HostCall
  | operation call => some call
  | _ => none

/-- The cookies that a call leaves in a slot that it clears. -/
def clears? : Call → Option (Option String)
  | begin _ cookies => some cookies
  | operation _ => none
  | finish _ => some none

end Call

/-- What a call answers. -/
inductive Answer where
  | done
  | accepted (count : Nat)
  | delivered (sent : Bool)
  | body (data : Bytes)
  | cookies (cookies : Option String)
  | noted (slot : Slot)
  deriving DecidableEq

/-- Answers a call. -/
def perform (h : WorkerHost) : Call → Answer × WorkerHost
  | .begin thread cookies => (.done, h.begin thread cookies)
  | .operation (.writeOutput thread data) =>
    let (count, h) := operations.writeOutput thread data h
    (.accepted count, h)
  | .operation (.sendHeaders thread status headers) =>
    let (sent, h) := operations.sendHeaders thread status headers h
    (.delivered sent, h)
  | .operation (.readBody thread size) =>
    let (data, h) := operations.readBody thread size h
    (.body data, h)
  | .operation (.readCookies thread) =>
    let (cookies, h) := operations.readCookies thread h
    (.cookies cookies, h)
  | .operation (.registerVariable thread name value) =>
    (.done, operations.registerVariable thread name value h)
  | .operation (.logMessage thread message priority) =>
    (.done, operations.logMessage thread message priority h)
  | .finish thread =>
    let (slot, h) := h.finish thread
    (.noted slot, h)

/-- The calls that are made one after another, with their answers. -/
def transcript (h : WorkerHost) : List Call → List (Call × Answer)
  | [] => []
  | call :: calls => (call, (h.perform call).1) :: transcript (h.perform call).2 calls

/-- The host after calls. -/
def after (h : WorkerHost) (calls : List Call) : WorkerHost :=
  calls.foldl (fun h call => (h.perform call).2) h

/-! ## 2. One call -/

/-- The answer of a call, by the slot of its thread. -/
def Call.answer (slot : Option Slot) : Call → Answer
  | .begin .. => .done
  | .operation (.writeOutput _ data) => .accepted (if slot.isSome then data.length else 0)
  | .operation (.sendHeaders ..) => .delivered slot.isSome
  | .operation (.readBody ..) => .body []
  | .operation (.readCookies _) => .cookies (slot.bind (·.cookies))
  | .operation (.registerVariable ..) => .done
  | .operation (.logMessage ..) => .done
  | .finish _ => .noted (slot.getD .empty)

/-- What a call makes of the slot of its thread. -/
def Call.change : Call → Slot → Slot
  | .begin _ cookies => fun _ => { Slot.empty with cookies }
  | .operation (.writeOutput _ data) => fun s =>
    { s with bytesWritten := s.bytesWritten + data.length }
  | .operation (.sendHeaders _ status headers) => fun s =>
    { s with sentStatus := some status, sentHeaders := headers }
  | .operation (.readBody ..) => id
  | .operation (.readCookies _) => id
  | .operation (.registerVariable _ name value) => fun s =>
    { s with vars := s.vars ++ [(name, value)] }
  | .operation (.logMessage ..) => fun s => { s with logCount := s.logCount + 1 }
  | .finish _ => fun _ => .empty

/-- **A call answers by the slot of its thread.** -/
theorem answer_perform (h : WorkerHost) (call : Call) :
    (h.perform call).1 = call.answer (h.slot? call.thread) := by
  cases call with
  | operation call =>
    cases call with
    | writeOutput thread data =>
      show Answer.accepted (operations.writeOutput thread data h).1 = .accepted _
      simp only [operations, Call.thread, HostCall.thread]
      split
      · next e => simp [e]
      · next e => simp [e]
    | sendHeaders thread status headers =>
      show Answer.delivered (operations.sendHeaders thread status headers h).1 = .delivered _
      simp only [operations, Call.thread, HostCall.thread]
      split
      · next e => simp [e]
      · next e => simp [e]
    | _ => rfl
  | _ => rfl

/-- **A call changes the slot of its thread.** -/
theorem slot?_perform_self (h : WorkerHost) (call : Call) :
    (h.perform call).2.slot? call.thread = (h.slot? call.thread).map call.change := by
  cases call with
  | operation call =>
    cases call with
    | writeOutput thread data => exact slot?_writeOutput h thread data
    | sendHeaders thread status headers => exact slot?_sendHeaders h thread status headers
    | registerVariable thread name value => exact slot?_update_self h thread _
    | logMessage thread message priority => exact slot?_update_self h thread _
    | _ => exact Option.map_id'.symm
  | begin thread cookies => exact slot?_update_self h thread _
  | finish thread => exact slot?_update_self h thread _

/-- **A call changes no other slot.** -/
theorem keeps_perform (h : WorkerHost) (call : Call) :
    Keeps call.thread h (h.perform call).2 := by
  cases call with
  | operation call =>
    cases call with
    | writeOutput thread data => exact keeps_writeOutput h thread data
    | sendHeaders thread status headers => exact keeps_sendHeaders h thread status headers
    | registerVariable thread name value => exact keeps_update h thread _
    | logMessage thread message priority => exact keeps_log h thread message priority
    | _ => exact .rfl
  | begin thread cookies => exact keeps_update h thread _
  | finish thread => exact keeps_update h thread _

/-- The answer of a call for a thread without a slot. -/
def Call.emptyAnswer : Call → Answer
  | .begin .. => .done
  | .operation (.writeOutput ..) => .accepted 0
  | .operation (.sendHeaders ..) => .delivered false
  | .operation (.readBody ..) => .body []
  | .operation (.readCookies _) => .cookies none
  | .operation (.registerVariable ..) => .done
  | .operation (.logMessage ..) => .done
  | .finish _ => .noted .empty

theorem Call.answer_none (call : Call) : call.answer none = call.emptyAnswer := by
  cases call with
  | operation call => cases call <;> rfl
  | _ => rfl

theorem isSome_slot?_iff {h : WorkerHost} {i : Int32} :
    (h.slot? i).isSome = true ↔ 0 ≤ i.toInt ∧ i.toInt < h.slots.length := by
  unfold slot?
  constructor
  · intro some
    cases hp : h.position? i with
    | none => simp [hp] at some
    | some n =>
      obtain ⟨index, inside⟩ := position?_eq_some.mp hp
      omega
  · intro ⟨start, inside⟩
    obtain ⟨n, index⟩ := Int.eq_ofNat_of_zero_le start
    have hn : n < h.slots.length := by omega
    rw [position?_eq_some.mpr ⟨index, hn⟩]
    simp [hn]

theorem slots_update_of_none {h : WorkerHost} {i : Int32} (hs : h.slot? i = none)
    (f : Slot → Slot) : (h.update i f).slots = h.slots := by
  have hp : h.position? i = none := by
    cases hp : h.position? i with
    | none => rfl
    | some n =>
      have inside := (position?_eq_some.mp hp).2
      simp [slot?, hp, inside] at hs
  simp [update, hp]

/-- **A call for a thread without a slot changes no slot.** -/
theorem slots_perform_of_none {h : WorkerHost} {call : Call} (hs : h.slot? call.thread = none) :
    (h.perform call).2.slots = h.slots := by
  cases call with
  | operation call =>
    cases call with
    | writeOutput thread data =>
      replace hs : h.slot? thread = none := hs
      simp [perform, operations, hs]
    | sendHeaders thread status headers =>
      replace hs : h.slot? thread = none := hs
      simp [perform, operations, hs]
    | registerVariable thread name value => exact slots_update_of_none hs _
    | logMessage thread message priority => exact slots_update_of_none hs _
    | _ => rfl
  | begin thread cookies => exact slots_update_of_none hs _
  | finish thread => exact slots_update_of_none hs _

/-! ## 3. Calls one after another -/

/-- The calls for a thread. -/
def callsFor (i : Int32) (calls : List Call) : List Call :=
  calls.filter (·.thread = i)

/-- **The calls for one thread get the answers that they get alone**, on every host with the same
slot for it. -/
theorem transcript_filter {i : Int32} {h h' : WorkerHost} (hs : h.slot? i = h'.slot? i)
    (calls : List Call) :
    (h.transcript calls).filter (·.1.thread = i) = h'.transcript (callsFor i calls) := by
  unfold callsFor
  induction calls generalizing h h' with
  | nil => rfl
  | cons call calls ih =>
    by_cases ht : call.thread = i
    · subst ht
      have answers : (h.perform call).1 = (h'.perform call).1 := by
        rw [answer_perform, answer_perform, hs]
      have slots : (h.perform call).2.slot? call.thread =
          (h'.perform call).2.slot? call.thread := by
        rw [slot?_perform_self, slot?_perform_self, hs]
      simp [transcript, answers, ih slots]
    · have kept : (h.perform call).2.slot? i = h'.slot? i := by
        rw [(keeps_perform h call).slot i (Ne.symm ht), hs]
      simp [transcript, ht, ih kept]

/-- The slot of a thread after calls, by the calls for it. -/
theorem slot?_after (h : WorkerHost) (i : Int32) (calls : List Call) :
    (h.after calls).slot? i =
      (h.slot? i).map fun s => (callsFor i calls).foldl (fun s call => call.change s) s := by
  unfold callsFor after
  induction calls generalizing h with
  | nil => simp
  | cons call calls ih =>
    rw [List.foldl_cons, ih]
    by_cases ht : call.thread = i
    · subst ht
      rw [slot?_perform_self, Option.map_map]
      simp [Function.comp_def]
    · rw [(keeps_perform h call).slot i (Ne.symm ht)]
      simp [ht]

/-! ## 4. What a slot holds -/

/-- The status and the header block that an operation sends. -/
def sent? : HostCall → Option (Nat × Bytes)
  | .sendHeaders _ status headers => some (status, headers)
  | _ => none

/-- **The record of calls** for a request with some cookies: the variables in their order, status
and header block that were sent last, and how much was written and logged. -/
structure Recorded (cookies : Option String) (calls : List Call) (s : Slot) : Prop where
  cookies : s.cookies = cookies
  vars : s.vars = (calls.filterMap Call.operation?).filterMap HostCall.told?
  sentStatus : s.sentStatus =
    ((calls.filterMap Call.operation?).filterMap sent?).getLast?.map (·.1)
  sentHeaders : s.sentHeaders =
    (((calls.filterMap Call.operation?).filterMap sent?).getLast?.map (·.2)).getD []
  bytesWritten : s.bytesWritten =
    ((calls.filterMap Call.operation?).flatMap HostCall.written).length
  logCount : s.logCount = ((calls.filterMap Call.operation?).filterMap HostCall.logged?).length

theorem recorded_nil (cookies : Option String) :
    Recorded cookies [] { Slot.empty with cookies } :=
  ⟨rfl, rfl, rfl, rfl, rfl, rfl⟩

/-- One more call, which does not clear the slot. -/
theorem Recorded.concat {cookies : Option String} {calls : List Call} {s : Slot}
    (h : Recorded cookies calls s) {call : Call} (hc : call.clears? = none) :
    Recorded cookies (calls ++ [call]) (call.change s) := by
  obtain ⟨cookies, vars, sentStatus, sentHeaders, bytesWritten, logCount⟩ := h
  cases call with
  | operation call =>
    cases call <;> constructor <;>
      simp [Call.change, Call.operation?, HostCall.told?, sent?, HostCall.written,
        HostCall.logged?, *]
  | begin thread cookies => cases hc
  | finish thread => cases hc

theorem recorded_foldl (cookies : Option String) {calls : List Call}
    (hc : ∀ call ∈ calls, call.clears? = none) :
    Recorded cookies calls
      (calls.foldl (fun s call => call.change s) { Slot.empty with cookies }) := by
  induction calls using List.reverseRecOn with
  | nil => exact recorded_nil cookies
  | append_singleton calls call ih =>
    obtain ⟨earlier, last⟩ := List.forall_mem_append.mp hc
    rw [List.foldl_append]
    exact (ih earlier).concat (last call (List.mem_singleton.mpr rfl))

theorem change_of_clears {call : Call} {cookies : Option String} (h : call.clears? = some cookies)
    (s : Slot) : call.change s = { Slot.empty with cookies } := by
  cases call with
  | operation call => cases h
  | begin thread cookies => obtain rfl := Option.some.inj h; rfl
  | finish thread => obtain rfl := Option.some.inj h; rfl

/-- **A slot that was cleared holds the record of the calls since.** -/
theorem recorded_after {h : WorkerHost} {i : Int32} {cookies : Option String}
    (hs : h.slot? i = some { Slot.empty with cookies }) {calls : List Call}
    (unmarked : ∀ call ∈ calls, call.thread = i → call.clears? = none) :
    ∃ s, (h.after calls).slot? i = some s ∧ Recorded cookies (callsFor i calls) s := by
  have own : ∀ call ∈ callsFor i calls, call.clears? = none := by
    intro call member
    have ⟨among, mine⟩ := List.mem_filter.mp member
    exact unmarked call among (of_decide_eq_true mine)
  refine ⟨_, ?_, recorded_foldl cookies own⟩
  rw [slot?_after, hs]
  rfl

/-- The slot of a thread after a call that clears it. -/
theorem slot?_after_clears {h : WorkerHost} {call : Call} {cookies : Option String}
    (hs : (h.slot? call.thread).isSome = true) (hc : call.clears? = some cookies)
    (before : List Call) :
    (h.after (before ++ [call])).slot? call.thread = some { Slot.empty with cookies } := by
  obtain ⟨s, hs⟩ := Option.isSome_iff_exists.mp hs
  rw [slot?_after, hs]
  simp [callsFor, change_of_clears hc]

theorem perform_finish {h : WorkerHost} {i : Int32} {s : Slot} (hs : h.slot? i = some s) :
    (h.perform (.finish i)).1 = .noted s := by
  rw [answer_perform]
  show Answer.noted ((h.slot? i).getD .empty) = .noted s
  rw [hs]
  rfl

theorem slot?_new {workers : Nat} {i : Int32} (inside : 0 ≤ i.toInt ∧ i.toInt < workers) :
    (new workers).slot? i = some .empty := by
  obtain ⟨n, index⟩ := Int.eq_ofNat_of_zero_le inside.1
  have hn : n < workers := by omega
  have length : (new workers).slots.length = workers := by simp [new]
  have position : (new workers).position? i = some n :=
    position?_eq_some.mpr ⟨index, length.symm ▸ hn⟩
  rw [slot?, position]
  simp [new, hn]

/-! ## 5. The result -/

/-- **The slots of a host do not meet.** -/
structure Independent (h : WorkerHost) : Prop where
  /-- The calls for a thread get the answers that they get alone, and leave its slot as it is
  then. -/
  alone : ∀ i calls,
    (h.transcript calls).filter (·.1.thread = i) = h.transcript (calls.filter (·.thread = i)) ∧
      (h.after calls).slot? i = (h.after (calls.filter (·.thread = i))).slot? i
  /-- What is taken out of a slot is the record of the calls for it since it was cleared last. -/
  noted : ∀ i : Int32, 0 ≤ i.toInt ∧ i.toInt < h.slots.length →
    ∀ before mark since cookies, mark.thread = i → mark.clears? = some cookies →
      (∀ call ∈ since, call.thread = i → call.clears? = none) →
      ∃ s, ((h.after (before ++ mark :: since)).perform (.finish i)).1 = .noted s ∧
        Recorded cookies (since.filter (·.thread = i)) s
  /-- Nothing stays behind in it. -/
  drained : ∀ i : Int32, 0 ≤ i.toInt ∧ i.toInt < h.slots.length →
    ∀ calls, ((h.after calls).perform (.finish i)).2.slot? i = some .empty
  /-- A call for a thread without a slot changes no slot and gets an empty answer. -/
  outside : ∀ call : Call, ¬ (0 ≤ call.thread.toInt ∧ call.thread.toInt < h.slots.length) →
    (h.perform call).2.slots = h.slots ∧ (h.perform call).1 = call.emptyAnswer

theorem independent (h : WorkerHost) : Independent h where
  alone i calls := by
    refine ⟨transcript_filter rfl calls, ?_⟩
    rw [slot?_after, slot?_after, callsFor, callsFor, List.filter_filter]
    simp
  noted i inside before mark since cookies hm hc unmarked := by
    subst hm
    have cleared := slot?_after_clears (isSome_slot?_iff.mpr inside) hc before
    obtain ⟨s, hs, recorded⟩ := recorded_after cleared unmarked
    have whole : h.after (before ++ mark :: since) = (h.after (before ++ [mark])).after since := by
      simp [after]
    refine ⟨s, ?_, recorded⟩
    rw [whole]
    exact perform_finish hs
  drained i inside calls := by
    obtain ⟨s, hs⟩ := Option.isSome_iff_exists.mp (isSome_slot?_iff.mpr inside)
    have last := slot?_perform_self (h.after calls) (.finish i)
    rw [show (Call.finish i).thread = i from rfl, slot?_after, hs] at last
    exact last
  outside call outside := by
    have none : h.slot? call.thread = none := by
      simpa using fun some => outside (isSome_slot?_iff.mp some)
    refine ⟨slots_perform_of_none none, ?_⟩
    rw [answer_perform, none, Call.answer_none]

/-- **The slots of a host are independent.** The calls for one thread get the answers that they get
alone; what is taken out is the record of the calls since the slot was cleared, or of all calls if
it never was; other threads than the workers' have no slot. -/
theorem slots_independent :
    (∀ h : WorkerHost, Independent h) ∧
      ∀ (workers : Nat) (i : Int32), 0 ≤ i.toInt ∧ i.toInt < workers →
        ∀ calls : List Call, (∀ call ∈ calls, call.thread = i → call.clears? = none) →
          ∃ s, (((new workers).after calls).perform (.finish i)).1 = .noted s ∧
            Recorded none (calls.filter (·.thread = i)) s := by
  refine ⟨independent, fun workers i inside calls unmarked => ?_⟩
  obtain ⟨s, hs, recorded⟩ := recorded_after (slot?_new inside) unmarked
  exact ⟨s, perform_finish hs, recorded⟩

/-- Calls for both of two workers, one of whom begins twice, and for a thread that is none. -/
def mingled : List Call :=
  [.operation (.registerVariable 1 "A" "early"), .begin 0 (some "sid=0"), .begin 1 (some "sid=1"),
    .operation (.writeOutput 1 [104, 105]), .operation (.writeOutput (-1) [104]),
    .operation (.logMessage 0 "m" .error), .operation (.sendHeaders 1 200 []),
    .operation (.sendHeaders 1 404 [88]), .operation (.registerVariable 1 "K" "V")]

theorem slots_independent_mingled :
    (∃ s, (((new 2).after mingled).perform (.finish 1)).1 = .noted s ∧
      s = { cookies := some "sid=1", vars := [("K", "V")], sentStatus := some 404
            sentHeaders := [88], bytesWritten := 2, logCount := 0 }) ∧
      ((new 2).transcript mingled).filter (·.1.thread = 0) =
        [(.begin 0 (some "sid=0"), .done), (.operation (.logMessage 0 "m" .error), .done)] ∧
      ((new 2).perform (.operation (.writeOutput (-1) [104]))).1 = .accepted 0 := by
  have independent := slots_independent.1 (new 2)
  have noted := independent.noted 1 (by decide) [.operation (.registerVariable 1 "A" "early"),
    .begin 0 (some "sid=0")] (.begin 1 (some "sid=1")) (mingled.drop 3) (some "sid=1") rfl rfl
    (by decide)
  obtain ⟨s, answer, recorded⟩ := noted
  refine ⟨⟨s, answer, ?_⟩, (independent.alone 0 mingled).1.trans (by decide), ?_⟩
  · obtain ⟨cookies, vars, status, headers, written, logged⟩ := recorded
    cases s
    rw [Slot.mk.injEq]
    exact ⟨cookies, vars.trans (by decide), status.trans (by decide), headers.trans (by decide),
      written.trans (by decide), logged.trans (by decide)⟩
  · exact (independent.outside (.operation (.writeOutput (-1) [104])) (by decide)).2

end ScriptGateway.Executor.WorkerHost
