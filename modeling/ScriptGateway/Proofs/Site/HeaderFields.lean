import ScriptGateway.Proofs.Executor.Cookies
import ScriptGateway.Proofs.Site.Variables
/-!
# The variables, told from the fields that were sent

A client sends fields in some order, under names in any case, and under a name as often as it
likes. The variables say all of it: those of the gateway come first, then one for each name, in the
order in which the names appeared first, with all that was sent under the name.

Cookies take two ways to a script: as the text of a variable, and through the slot of its worker.
Both say the same.

* `sent`, `sentNames`, `sentText`: what was sent, and what a variable is to say of it.
* `values_received`, `shownNames_received`, `cookies?_received`: what is kept of it.
* `HeadersMapped`, `headers_mapped`: the variables of a request, and the cookies that its script
  reads.
-/

namespace ScriptGateway.Site

open Reply (lowered)
open Script (Variable)

/-! ## 1. What was sent -/

/-- The values that were sent under a name, in any case, in order of arrival. -/
def sent (fields : List (String × Bytes)) (name : String) : List Bytes :=
  (fields.filter (lowered ·.1 = name)).map (·.2)

/-- The names that were sent, each once, in order of first appearance. The type and the length of
the body have variables of their own. -/
def sentNames (fields : List (String × Bytes)) : List String :=
  (fields.map (lowered ·.1)).eraseDups.filter fun name =>
    name ≠ "content-type" ∧ name ≠ "content-length"

/-- The cookies that were sent: the visible values, trimmed, without empty ones. -/
def sentCookies (fields : List (String × Bytes)) : List String :=
  (((sent fields "cookie").filterMap Http.visibleText?).map Text.trim).filter (· ≠ "")

/-- What the variable of a name says: all that was sent under it. -/
def sentText (fields : List (String × Bytes)) (name : String) : String :=
  if name = "cookie" then Text.joinTexts "; " (sentCookies fields)
  else Text.joinTexts ", " ((sent fields name).map Bytes.toTextLossy)

/-- The variable for the type of the body: it is there if a type was sent. -/
def typeVariable (fields : List (String × Bytes)) : List Variable :=
  match sent fields "content-type" with
  | value :: _ => [("CONTENT_TYPE", value.toTextLossy)]
  | [] => []

/-- The variable for the length of the body: it is there if a length was sent, or if there is a
body, and then it says how long the body is. -/
def lengthVariable (fields : List (String × Bytes)) (body : Bytes) : List Variable :=
  match sent fields "content-length" with
  | value :: _ => [("CONTENT_LENGTH", value.toTextLossy)]
  | [] => if body = [] then [] else [("CONTENT_LENGTH", toString body.length)]

/-! ## 2. What is kept of it -/

/-- A text that is joined with others is not lost among them. -/
theorem joinTexts_ne_empty (separator : String) {text : String} (h : text ≠ "")
    (texts : List String) : Text.joinTexts separator (text :: texts) ≠ "" := by
  intro e
  have chars := congrArg String.toList e
  rw [Text.joinTexts, String.toList_ofList, List.map_cons] at chars
  have nothing : text.toList = [] := by
    cases texts with
    | nil => simpa using chars
    | cons next texts => exact (List.append_eq_nil_iff.mp chars).1
  exact h (String.toList_inj.mp nothing)

section Received

variable {fields : List (String × Bytes)} {h : Http.Headers}
  (received : Http.Headers.ofFields? fields = some h)
include received

theorem values_received (name : String) : h.values name = sent fields name := by
  unfold Http.Headers.values sent
  rw [fields_received received, List.filter_map, List.map_map]
  rfl

theorem shownNames_received : shownNames h = sentNames fields := by
  unfold shownNames sentNames Http.Headers.names
  rw [fields_received received, List.map_map]
  rfl

theorem cookieTexts_received : h.cookieTexts = sentCookies fields := by
  unfold Http.Headers.cookieTexts sentCookies
  rw [values_received received]

/-- The cookies are one text, and an empty one exactly if there are none. -/
theorem cookies?_received : h.cookies? =
    if sentText fields "cookie" = "" then none else some (sentText fields "cookie") := by
  have cookies : sentText fields "cookie" = Text.joinTexts "; " (sentCookies fields) := if_pos rfl
  have some_text : ∀ text ∈ sentCookies fields, text ≠ "" := fun text ht =>
    of_decide_eq_true (List.mem_filter.mp ht).2
  unfold Http.Headers.cookies?
  rw [cookieTexts_received received, cookies]
  cases hs : sentCookies fields with
  | nil => rfl
  | cons text texts =>
    have full := joinTexts_ne_empty "; " (some_text text (hs ▸ List.mem_cons_self)) texts
    exact (if_neg full).symm

theorem headerText_received (name : String) : headerText h name = sentText fields name := by
  unfold headerText
  by_cases hc : name = "cookie"
  · rw [if_pos hc, cookies?_received received, hc]
    by_cases none : sentText fields "cookie" = ""
    · rw [if_pos none, none]
      rfl
    · rw [if_neg none]
      rfl
  · rw [if_neg hc, sentText, if_neg hc, Http.Headers.joined, values_received received]

theorem contentTypeVariable_received : contentTypeVariable h = typeVariable fields := by
  unfold contentTypeVariable typeVariable Http.Headers.first?
  rw [values_received received]
  cases sent fields "content-type" with
  | nil => rfl
  | cons value values => rfl

theorem contentLengthVariable_received (body : Bytes) :
    contentLengthVariable h body = lengthVariable fields body := by
  unfold contentLengthVariable lengthVariable Http.Headers.first?
  rw [values_received received]
  cases sent fields "content-length" with
  | nil => cases body <;> rfl
  | cons value values => rfl

end Received

/-! ## 3. The variables of a request -/

/-- **The variables of a request**, told from the fields that were sent, and the cookies that its
script reads. -/
structure HeadersMapped (s : Site) (r : Http.Request) (fields : List (String × Bytes))
    (body : Bytes) (peer : Peer) (now : Duration) : Prop where
  /-- Those of the gateway, then those of the body, then one for each name. -/
  vars : s.vars r body peer now =
    s.commonVariables r peer now ++ typeVariable fields ++ lengthVariable fields body ++
      (sentNames fields).map fun name => (headerVariable name, sentText fields name)
  /-- Those of the gateway have the same keys for every request, in one order. -/
  common : (s.commonVariables r peer now).map (·.1) ++ ["CONTENT_TYPE", "CONTENT_LENGTH"] = ownKeys
  /-- The names are those that were sent, but for the type and the length of the body. -/
  complete : ∀ name, name ∈ sentNames fields ↔
    (∃ field ∈ fields, lowered field.1 = name) ∧ name ≠ "content-type" ∧ name ≠ "content-length"
  once : (sentNames fields).Nodup
  /-- Names that are sent later come later. -/
  order : ∀ first later, fields = first ++ later → sentNames first <+: sentNames fields
  /-- On a worker with a thread of its own the script reads what the variable of the cookies says,
  and nothing if that is empty, however often it asks and whatever else runs on the executor. -/
  cookies : ∀ (interpreter : Script.Interpreter) (engine : Engine)
    (processors workers capacity : Nat) (timeout : Option Duration), 0 < processors →
    ∀ state : Executor.State, Executor.State.Reachable interpreter
        (.new engine processors workers capacity timeout) state →
    ∀ (w : Nat) (run : Executor.Run) (job : Pool.Job Script.Request),
      state.runs[w]? = some (some run) → state.pool.workers[w]? = some (.running job) →
      Executor.OwnThread (Executor.poolSettings processors workers capacity).workers w →
      job.request = s.scriptRequest r body peer now →
      (Script.Session.perform Executor.WorkerHost.operations .readCookies
          (run.session state.core.host)).1 =
        if sentText fields "cookie" = "" then none else some (sentText fields "cookie")

theorem mem_sentNames (fields : List (String × Bytes)) (name : String) :
    name ∈ sentNames fields ↔ (∃ field ∈ fields, lowered field.1 = name) ∧
      name ≠ "content-type" ∧ name ≠ "content-length" := by
  unfold sentNames
  rw [List.mem_filter, List.mem_eraseDups, List.mem_map, decide_eq_true_iff]

theorem nodup_sentNames (fields : List (String × Bytes)) : (sentNames fields).Nodup :=
  (nodup_eraseDups _).filter _

theorem sentNames_prefix (first later : List (String × Bytes)) :
    sentNames first <+: sentNames (first ++ later) := by
  unfold sentNames
  rw [List.map_append, List.eraseDups_append, List.filter_append]
  exact List.prefix_append _ _

/-- **Every field that is sent comes to the script**, under its name and in its place. -/
theorem headers_mapped (s : Site) (r : Http.Request) (fields : List (String × Bytes))
    (received : Http.Headers.ofFields? fields = some r.headers) (body : Bytes) (peer : Peer)
    (now : Duration) : HeadersMapped s r fields body peer now where
  vars := by
    have texts : headerVariables r.headers =
        (sentNames fields).map fun name => (headerVariable name, sentText fields name) := by
      rw [headerVariables_eq, shownNames_received received]
      exact List.map_congr_left fun name _ => by rw [headerText_received received]
    rw [vars_eq, ownVariables, texts, contentTypeVariable_received received,
      contentLengthVariable_received received]
  common := rfl
  complete := mem_sentNames fields
  once := nodup_sentNames fields
  order first later split := split ▸ sentNames_prefix first later
  cookies interpreter engine processors workers capacity timeout hp state reachable w run job hr hw
      own request := by
    rw [Executor.cookies_read hp reachable hr hw own, request]
    exact cookies?_received received

/-- Fields whose names occur again in another case. -/
def repeatedFields : List (String × Bytes) :=
  [("Cookie", Bytes.ofText " a=1 "), ("X-A", Bytes.ofText "1"), ("COOKIE", Bytes.ofText "b=2"),
    ("Content-Type", Bytes.ofText "text/plain"), ("x-a", Bytes.ofText "2")]

/-- The site for forms is asked with them. -/
def repeatedRequest : Http.Request :=
  asked ⟨[("cookie", Bytes.ofText " a=1 "), ("x-a", Bytes.ofText "1"),
    ("cookie", Bytes.ofText "b=2"), ("content-type", Bytes.ofText "text/plain"),
    ("x-a", Bytes.ofText "2")]⟩

/-- An executor on which the script of that request runs and is about to ask for the cookies. -/
def cookieReader : Executor.State :=
  (Executor.State.new Executor.startedEngine 1 1 1 none).play
    (fun _ => .ask .readCookies fun _ => .done)
    [.submit (Executor.formSite.scriptRequest repeatedRequest [] Executor.loopback
        { seconds := 0, nanos := 0 }),
      .caller 0, .caller 0, .caller 0, .caller 0, .worker 0, .worker 0, .worker 0, .worker 0,
      .enter 0]

/-- The values of a name are told together, and the script reads the cookies as they are told. -/
theorem headers_mapped_repeated :
    (askedVars repeatedRequest.headers).drop 17 = [("CONTENT_TYPE", "text/plain"),
        ("HTTP_COOKIE", "a=1; b=2"), ("HTTP_X_A", "1, 2")] ∧
      ∃ run, cookieReader.runs[0]? = some (some run) ∧
        (Script.Session.perform Executor.WorkerHost.operations .readCookies
          (run.session cookieReader.core.host)).1 = some "a=1; b=2" := by
  have mapped := headers_mapped Executor.formSite repeatedRequest repeatedFields (by decide) []
    Executor.loopback { seconds := 0, nanos := 0 }
  have cookies : sentText repeatedFields "cookie" = "a=1; b=2" := by decide +kernel
  refine ⟨?_, ?_⟩
  · show (Executor.formSite.vars repeatedRequest [] _ _).drop 17 = _
    rw [mapped.vars, List.append_assoc, List.append_assoc]
    refine (List.drop_left' ?_).trans ?_
    · rfl
    · decide +kernel
  · obtain ⟨run, running⟩ : ∃ run, cookieReader.runs[0]? = some (some run) := ⟨_, rfl⟩
    have reachable : Executor.State.Reachable (fun _ => .ask .readCookies fun _ => .done)
        (.new Executor.startedEngine 1 1 1 none) cookieReader :=
      Executor.reachable_play .start _
    have told := mapped.cookies _ _ 1 1 1 none (by decide) cookieReader reachable 0 run _ running
      rfl (Executor.ownThread_of_le (by decide) (by decide)) rfl
    rw [cookies] at told
    exact ⟨run, running, told⟩

end ScriptGateway.Site
