import ScriptGateway.Executor.WorkerHost
import ScriptGateway.Proofs.Log.Line
import ScriptGateway.Proofs.Text.Split
/-!
# Interpreter messages in the log

A message that an interpreter hands to the workers' host becomes one event, and all of it can be
read from the line of that event: the thread, the level, and the message without the quotation marks
at its ends. So a message is logged verbatim just if it neither begins nor ends with one.

* `Unquoted`: what is left of a text without the quotation marks at its ends.
* `MessageLogged`, `message_logged`: what is read from the line of a message.
* `quotes_lost`: a message whose own quotation mark is not logged.
-/

namespace ScriptGateway.Executor.WorkerHost

open Script (Priority)

/-! ## 1. Quotation marks at the ends -/

/-- A text that neither begins nor ends with a quotation mark. -/
def Bare (s : String) : Prop :=
  s.toList.head? ≠ some '"' ∧ s.toList.getLast? ≠ some '"'

/-- **A text and what it is without the quotation marks at its ends.** -/
structure Unquoted (message said : String) : Prop where
  /-- Only quotation marks stand around it. -/
  around : ∃ before after, message.toList = before ++ said.toList ++ after ∧
    (∀ c ∈ before, c = '"') ∧ ∀ c ∈ after, c = '"'
  bare : Bare said
  same : said = message ↔ Bare message

theorem trimBoth_toList_eq_iff (s : String) :
    Text.trimBoth (· == '"') s.toList = s.toList ↔ Bare s := by
  have mark {o : Option Char} : (∀ c ∈ o, (c == '"') = false) ↔ o ≠ some '"' := by
    cases o <;> simp
  rw [Text.trimBoth_eq_self_iff, mark, mark, Bare]

/-- What a shown text gives as a message. -/
theorem unquoted_trimBoth (message : String) :
    Unquoted message (String.ofList (Text.trimBoth (· == '"') message.toList)) := by
  obtain ⟨before, after, parts, front, back⟩ :=
    Text.exists_append_trimBoth (· == '"') message.toList
  refine ⟨⟨before, after, ?_, fun c hc => eq_of_beq (front c hc),
    fun c hc => eq_of_beq (back c hc)⟩, ?_, ?_⟩
  · rw [String.toList_ofList]
    exact parts
  · rw [← trimBoth_toList_eq_iff, String.toList_ofList]
    exact Text.trimBoth_trimBoth _ _
  · rw [← trimBoth_toList_eq_iff, ← String.toList_inj, String.toList_ofList]

/-! ## 2. The line of a message -/

theorem events_update (h : WorkerHost) (thread : Int32) (f : Slot → Slot) :
    (h.update thread f).events = h.events := by
  unfold update
  split <;> rfl

/-- The values of a message are exact. -/
theorem exact_messageEvent (service time : String) (thread : Int32) (message : String)
    (priority : Priority) : Json.Exact
      ((Log.Entry.ofEvent service (messageEvent thread message priority)).toJson time) := by
  refine Log.exact_toJson_ofEvent service time _ fun f hf x => ?_
  rcases List.mem_pair.mp hf with rfl | rfl
  · exact nofun
  · exact nofun

/-- **What a message leaves in the log**: one more event, with `said` read from its line. -/
structure MessageLogged (service time : String) (h : WorkerHost) (thread : Int32)
    (message : String) (priority : Priority) (said : String) : Prop where
  event : (operations.logMessage thread message priority h).events =
    h.events ++ [messageEvent thread message priority]
  line : Json.read (Log.line service time (messageEvent thread message priority)).toList =
    some (.object [
      ("ctx", .object [("service", .text service)]),
      ("data", .object [("worker", .int thread.toInt)]),
      ("level", .text priority.level.name),
      ("msg", .text said),
      ("ts", .text time),
      ("type", .text "php")])
  unquoted : Unquoted message said

/-- **Interpreter messages are logged**, whatever they say and whichever thread they come from: as
they are, but for the quotation marks at their ends. -/
theorem message_logged (service time : String) (h : WorkerHost) (thread : Int32) (message : String)
    (priority : Priority) :
    ∃ said, MessageLogged service time h thread message priority said := by
  have exact := exact_messageEvent service time thread message priority
  have lineEnd : ∀ c ∈ ['\n'], Json.isSpace c = true := List.forall_mem_singleton.mpr rfl
  refine ⟨_, ?_, ?_, unquoted_trimBoth message⟩
  · show (h.update thread _).events ++ _ = _
    rw [events_update]
  · rw [Log.line, Log.Entry.line, String.toList_ofList, Json.read_write exact lineEnd]
    rfl

/-- The message that is read from a line of the log. -/
def messageIn? (line : String) : Option String :=
  ((Json.read line.toList).bind (·.field? "msg")).bind Json.Value.asText?

/-- **Quotation marks of a message are lost.** This one begins with one that is its own. -/
theorem quotes_lost :
    messageIn? (Log.line "gateway" "now" (messageEvent 0 "\"a\" is undefined" .error)) =
        some "a\" is undefined" ∧
      ¬ ∀ (service time : String) (thread : Int32) (message : String) (priority : Priority),
        messageIn? (Log.line service time (messageEvent thread message priority)) =
          some message := by
  have lost : messageIn? (Log.line "gateway" "now" (messageEvent 0 "\"a\" is undefined" .error)) =
      some "a\" is undefined" := by
    decide +kernel
  refine ⟨lost, fun verbatim => ?_⟩
  have kept := verbatim "gateway" "now" 0 "\"a\" is undefined" .error
  rw [lost] at kept
  exact absurd kept (by decide)

end ScriptGateway.Executor.WorkerHost
