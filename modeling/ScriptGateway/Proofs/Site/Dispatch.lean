import ScriptGateway.Proofs.Log.Line
import ScriptGateway.Site.Dispatch
/-!
# Who answers a request

A request is answered by a health check, by a file or by the executor, and by one of them only. The
executor is handed at most one script request for it. What is answered without the executor is the
same for `HEAD` and `GET`, and a response to `HEAD` is what it would be otherwise, without the body.

* `Front.handleOn`: answering on an executor with a state of its own; `handle_eq` for one without.
* `Way`, `way`: the three ways of a request, and when each is taken.
* `noting`: an executor that notes what it is handed, and `handed`: what it noted.
* `whole`: the response before its body is dropped.
* `Dispatched`, `dispatch_exclusive`: all of it, for every request, file tree and executor.
* `access_recorded`, `messageOf_accessEvent`: the record of an answer.
-/

namespace ScriptGateway.Front

/-! ## 1. Executors with a state -/

/-- An executor with a state of its own, which every request may change. -/
abbrev Execute (σ : Type) :=
  Script.Request → σ → Except Executor.Error Executor.Result × σ

/-- What a request comes with: the connection, the time, and the body if it could be read. -/
structure Arrival where
  peer : Peer
  now : Duration
  body : Option Bytes

variable {σ : Type}

/-- Answers a request on an executor with a state. -/
def handleOn (f : Front) (report : Health.Report) (uptime : Duration) (execute : Execute σ)
    (r : Http.Request) (a : Arrival) (s : σ) : Answer × σ :=
  match f.begin report uptime a.peer a.now r a.body with
  | .answered answer => (answer, s)
  | .forwarded request => (conclude r (execute request s).1, (execute request s).2)

/-- On an executor without a state this is the answer of the front, before it is recorded. -/
theorem handle_eq (f : Front) (report : Health.Report) (uptime : Duration) (peer : Peer)
    (now : Duration) (millis : Float)
    (execute : Script.Request → Except Executor.Error Executor.Result) (r : Http.Request)
    (body : Option Bytes) :
    f.handle report uptime peer now millis execute r body =
      (f.handleOn report uptime (fun request s => (execute request, s)) r
        { peer, now, body } ()).1.recorded peer millis r := by
  unfold handle handleOn
  cases f.begin report uptime peer now r body <;> rfl

/-- The executor that notes what it is handed, in order. -/
def noting (execute : Execute σ) : Execute (σ × List Script.Request) := fun request s =>
  ((execute request s.1).1, (execute request s.1).2, s.2 ++ [request])

/-! ## 2. The ways of an answer -/

/-- The paths of health checks. -/
def healthPaths : List String :=
  ["/health", "/healthz", "/ready", "/readyz"]

theorem ofPath?_eq_none_iff {path : String} :
    Health.Check.ofPath? path = none ↔ path ∉ healthPaths := by
  unfold Health.Check.ofPath? healthPaths
  split
  · next h => rcases h with rfl | rfl <;> simp
  · next h =>
    split
    · next h => rcases h with rfl | rfl <;> simp
    · next h' => simp_all

/-- Whether a file answers a request: the method asks for one, and there is one for the path. -/
def HasFile (f : Front) (m : Http.Method) (path : String) : Prop :=
  (m = .get ∨ m = .head) ∧ ∃ file, Asset.resolve? f.tree f.root path = some file

/-- **Whether a request is the executor's**: its path is none of the health checks, no file answers
it, and its body could be read. -/
def IsScript (f : Front) (r : Http.Request) (a : Arrival) : Prop :=
  r.target.path ∉ healthPaths ∧ ¬ f.HasFile r.method r.target.path ∧ a.body.isSome = true

theorem asset?_eq_some_iff {f : Front} {m : Http.Method} {path : String} {file : Files.Location} :
    f.asset? m path = some file ↔
      (m = .get ∨ m = .head) ∧ Asset.resolve? f.tree f.root path = some file := by
  unfold asset? asksForFile
  simp

/-- **The three ways of a request.** -/
inductive Way (f : Front) (m : Http.Method) (path : String) : Route → Prop where
  | health (check : Health.Check) (h : path ∈ healthPaths)
      (hc : Health.Check.ofPath? path = some check) : Way f m path (.health check)
  | asset (file : Files.Location) (h : path ∉ healthPaths) (hm : m = .get ∨ m = .head)
      (hf : Asset.resolve? f.tree f.root path = some file) : Way f m path (.asset file)
  | script (h : path ∉ healthPaths) (hf : ¬ f.HasFile m path) : Way f m path .script

theorem way (f : Front) (m : Http.Method) (path : String) : Way f m path (f.route m path) := by
  unfold route
  cases hc : Health.Check.ofPath? path with
  | some check =>
    refine .health check (Decidable.byContradiction fun other => ?_) hc
    cases hc.symm.trans (ofPath?_eq_none_iff.mpr other)
  | none =>
    have other := ofPath?_eq_none_iff.mp hc
    cases hf : f.asset? m path with
    | some file =>
      obtain ⟨hm, found⟩ := asset?_eq_some_iff.mp hf
      exact .asset file other hm found
    | none =>
      refine .script other fun h => ?_
      obtain ⟨hm, file, found⟩ := h
      cases hf.symm.trans (asset?_eq_some_iff.mpr ⟨hm, found⟩)

/-- A request is the executor's if its way leads there and its body could be read. -/
theorem isScript_iff {f : Front} {r : Http.Request} {a : Arrival} :
    f.IsScript r a ↔ f.route r.method r.target.path = .script ∧ a.body.isSome = true := by
  have taken := f.way r.method r.target.path
  generalize f.route r.method r.target.path = way at taken
  unfold IsScript
  cases taken with
  | health check h hc => simp [h]
  | asset file h hm hf =>
    have there : f.HasFile r.method r.target.path := ⟨hm, file, hf⟩
    simp [there]
  | script h hf => simp [h, hf]

/-! ## 3. What the executor is handed -/

/-- What the executor is handed for a request. -/
def handed (f : Front) (report : Health.Report) (uptime : Duration) (execute : Execute σ)
    (r : Http.Request) (a : Arrival) (s : σ) : List Script.Request :=
  (f.handleOn report uptime (noting execute) r a (s, [])).2.2

/-- Noting changes neither the answer nor the executor. -/
theorem handleOn_noting (f : Front) (report : Health.Report) (uptime : Duration)
    (execute : Execute σ) (r : Http.Request) (a : Arrival) (s : σ)
    (before : List Script.Request) :
    f.handleOn report uptime (noting execute) r a (s, before) =
      ((f.handleOn report uptime execute r a s).1, (f.handleOn report uptime execute r a s).2,
        before ++ f.handed report uptime execute r a s) := by
  unfold handed handleOn
  cases f.begin report uptime a.peer a.now r a.body with
  | answered answer => simp
  | forwarded request => rfl

/-- A request that is the executor's is forwarded. -/
theorem begin_script {f : Front} (report : Health.Report) (uptime : Duration) {r : Http.Request}
    {a : Arrival} (h : f.IsScript r a) : ∃ body, a.body = some body ∧
      f.begin report uptime a.peer a.now r a.body =
        .forwarded (f.site.scriptRequest r body a.peer a.now) := by
  obtain ⟨route, read⟩ := isScript_iff.mp h
  obtain ⟨body, hb⟩ := Option.isSome_iff_exists.mp read
  refine ⟨body, hb, ?_⟩
  simp only [begin, route, hb]

/-- Any other request is answered at once. -/
theorem begin_other {f : Front} (report : Health.Report) (uptime : Duration) {r : Http.Request}
    {a : Arrival} (h : ¬ f.IsScript r a) :
    ∃ answer, f.begin report uptime a.peer a.now r a.body = .answered answer := by
  rw [isScript_iff] at h
  unfold begin
  cases e : f.route r.method r.target.path with
  | health check => exact ⟨_, rfl⟩
  | asset file => exact ⟨_, rfl⟩
  | script =>
    cases hb : a.body with
    | some body => simp [e, hb] at h
    | none => exact ⟨_, rfl⟩

/-! ## 4. Responses -/

/-- The response that an outcome of the executor makes. -/
def replyTo : Except Executor.Error Executor.Result → Http.Response
  | .ok result => Reply.ofScript result.response
  | .error e => Reply.ofError e

theorem response_conclude (r : Http.Request)
    (outcome : Except Executor.Error Executor.Result) :
    (conclude r outcome).response = trim r.method (replyTo outcome) := by
  cases outcome <;> rfl

/-- The response to a request before its body is dropped. -/
def whole (f : Front) (report : Health.Report) (uptime : Duration) (execute : Execute σ)
    (r : Http.Request) (a : Arrival) (s : σ) : Http.Response :=
  match f.route r.method r.target.path with
  | .health check => Health.response check report uptime
  | .asset file => Asset.serve f.tree f.cacheControl file
  | .script =>
    match a.body with
    | some body => replyTo (execute (f.site.scriptRequest r body a.peer a.now) s).1
    | none => .badRequest

/-- **A response is the whole one**, without its body if the method is `HEAD`. -/
theorem response_eq (f : Front) (report : Health.Report) (uptime : Duration)
    (execute : Execute σ) (r : Http.Request) (a : Arrival) (s : σ) :
    (f.handleOn report uptime execute r a s).1.response =
      trim r.method (f.whole report uptime execute r a s) := by
  unfold handleOn begin whole
  cases f.route r.method r.target.path with
  | health check => rfl
  | asset file => rfl
  | script =>
    cases a.body with
    | some body => exact response_conclude r _
    | none => rfl

/-- What is answered without the executor depends on the path, on whether a file is asked for, and
on nothing else. -/
theorem whole_same {f : Front} {report : Health.Report} {uptime : Duration}
    {execute execute' : Execute σ} {r r' : Http.Request} {a a' : Arrival} {s s' : σ}
    (path : r.target.path = r'.target.path)
    (asks : asksForFile r.method = asksForFile r'.method) (hr : ¬ f.IsScript r a)
    (hr' : ¬ f.IsScript r' a') :
    f.whole report uptime execute r a s = f.whole report uptime execute' r' a' s' := by
  have same : f.route r.method r.target.path = f.route r'.method r'.target.path := by
    unfold route asset?
    rw [path, asks]
  have unread {r : Http.Request} {a : Arrival} (hr : ¬ f.IsScript r a)
      (e : f.route r.method r.target.path = .script) : a.body = none := by
    rw [isScript_iff] at hr
    simpa [e] using hr
  unfold whole
  rw [← same]
  cases e : f.route r.method r.target.path with
  | health check => rfl
  | asset file => rfl
  | script => rw [unread hr e, unread hr' (same ▸ e)]

/-! ## 5. All of it -/

/-- **How a request is answered**, on any executor. -/
structure Dispatched (f : Front) (report : Health.Report) (uptime : Duration)
    (execute : Execute σ) (r : Http.Request) (a : Arrival) (s : σ) : Prop where
  /-- An executor that notes what it is handed answers as without that. -/
  noted : ∀ before, f.handleOn report uptime (noting execute) r a (s, before) =
    ((f.handleOn report uptime execute r a s).1, (f.handleOn report uptime execute r a s).2,
      before ++ f.handed report uptime execute r a s)
  /-- The executor is handed exactly one script request if the request is the executor's, -/
  once : f.IsScript r a → ∃ body, a.body = some body ∧
    f.handed report uptime execute r a s = [f.site.scriptRequest r body a.peer a.now]
  /-- and none otherwise; then it stays as it is. -/
  never : ¬ f.IsScript r a → f.handed report uptime execute r a s = [] ∧
    (f.handleOn report uptime execute r a s).2 = s
  /-- A health check is answered for every method, and whether or not there is a file. -/
  health : r.target.path ∈ healthPaths → ∃ check,
    Health.Check.ofPath? r.target.path = some check ∧
      (f.handleOn report uptime execute r a s).1.response =
        trim r.method (Health.response check report uptime)
  /-- `HEAD` and `GET` go the same way: if the bodies of both can be read or neither, both are the
  executor's or neither is. -/
  together : ∀ (r' : Http.Request) (a' : Arrival), r.method = .head → r'.method = .get →
    r.target.path = r'.target.path → a.body.isSome = a'.body.isSome →
      (f.IsScript r a ↔ f.IsScript r' a')
  /-- What is answered without the executor has the same status and headers for `HEAD` and for
  `GET`. -/
  mirrored : ∀ (execute' : Execute σ) (r' : Http.Request) (a' : Arrival) (s' : σ),
    r.method = .head → r'.method = .get → r.target.path = r'.target.path →
    ¬ f.IsScript r a → ¬ f.IsScript r' a' →
      (f.handleOn report uptime execute r a s).1.response.status =
          (f.handleOn report uptime execute' r' a' s').1.response.status ∧
        (f.handleOn report uptime execute r a s).1.response.headers =
          (f.handleOn report uptime execute' r' a' s').1.response.headers
  /-- A response to `HEAD` has no body, and the status and headers of the whole response. -/
  bodiless : r.method = .head →
    (f.handleOn report uptime execute r a s).1.response.body = [] ∧
      (f.handleOn report uptime execute r a s).1.response.status =
        (f.whole report uptime execute r a s).status ∧
      (f.handleOn report uptime execute r a s).1.response.headers =
        (f.whole report uptime execute r a s).headers
  /-- A response to any other method is the whole response. -/
  complete : r.method ≠ .head →
    (f.handleOn report uptime execute r a s).1.response = f.whole report uptime execute r a s

/-- A trimmed response differs from the whole one in its body at most. -/
theorem trim_cases (m : Http.Method) (response : Http.Response) :
    (trim m response).status = response.status ∧ (trim m response).headers = response.headers ∧
      (trim m response).body = if m = .head then [] else response.body := by
  unfold trim
  split <;> exact ⟨rfl, rfl, rfl⟩

/-- **Every request is answered in one way**, whatever its method, path, headers and body, the file
tree and the executor. -/
theorem dispatch_exclusive (f : Front) (report : Health.Report) (uptime : Duration)
    (execute : Execute σ) (r : Http.Request) (a : Arrival) (s : σ) :
    Dispatched f report uptime execute r a s where
  noted := handleOn_noting f report uptime execute r a s
  once h := by
    obtain ⟨body, hb, forwarded⟩ := begin_script report uptime h
    refine ⟨body, hb, ?_⟩
    simp only [handed, handleOn, forwarded, noting, List.nil_append]
  never h := by
    obtain ⟨answer, answered⟩ := begin_other report uptime h
    simp only [handed, handleOn, answered, and_self]
  health h := by
    have taken := f.way r.method r.target.path
    rw [response_eq, whole]
    generalize f.route r.method r.target.path = way at taken
    cases taken with
    | health check _ hc => exact ⟨check, hc, rfl⟩
    | asset file other => exact absurd h other
    | script other => exact absurd h other
  together r' a' hm hm' path read := by
    have files : f.HasFile r.method r.target.path ↔ f.HasFile r'.method r'.target.path := by
      unfold HasFile
      rw [hm, hm', path]
      simp
    unfold IsScript
    rw [files, path, read]
  mirrored execute' r' a' s' hm hm' path hr hr' := by
    have asks : asksForFile r.method = asksForFile r'.method := by
      rw [hm, hm']
      rfl
    have same : f.whole report uptime execute r a s = f.whole report uptime execute' r' a' s' :=
      whole_same path asks hr hr'
    obtain ⟨status, headers, -⟩ := trim_cases r.method (f.whole report uptime execute r a s)
    obtain ⟨status', headers', -⟩ := trim_cases r'.method (f.whole report uptime execute' r' a' s')
    rw [response_eq, response_eq, status, status', headers, headers', same]
    exact ⟨rfl, rfl⟩
  bodiless hm := by
    obtain ⟨status, headers, body⟩ := trim_cases r.method (f.whole report uptime execute r a s)
    rw [response_eq, status, headers, body, if_pos hm]
    exact ⟨rfl, rfl, rfl⟩
  complete hm := by
    rw [response_eq, trim, if_neg hm]

/-! ## 6. The record of an answer -/

/-- What is answered at once logs nothing but its record, -/
theorem events_of_begin {f : Front} {report : Health.Report} {uptime : Duration} {peer : Peer}
    {now : Duration} {r : Http.Request} {body : Option Bytes} {a : Answer}
    (h : f.begin report uptime peer now r body = .answered a) : a.events = [] := by
  unfold begin at h
  split at h
  · cases h
    rfl
  · cases h
    rfl
  · split at h
    · cases h
    · cases h
      rfl

/-- and what the executor made of a request at most an event of the gateway. -/
theorem target_of_conclude (r : Http.Request)
    (outcome : Except Executor.Error Executor.Result) :
    ∀ e ∈ (conclude r outcome).events, e.target = Log.gatewayTarget := by
  cases outcome with
  | ok result => exact nofun
  | error cause =>
    refine List.forall_mem_singleton.mpr ?_
    unfold failureEvent
    dsimp only
    split <;> rfl

/-- **Every answer is recorded once, after all else**: what is logged before are events of the
gateway. -/
theorem access_recorded (f : Front) (report : Health.Report) (uptime : Duration) (peer : Peer)
    (now : Duration) (millis : Float)
    (execute : Script.Request → Except Executor.Error Executor.Result) (r : Http.Request)
    (body : Option Bytes) :
    ∃ before, (f.handle report uptime peer now millis execute r body).events =
        before ++ [accessEvent peer millis r
          (f.handle report uptime peer now millis execute r body)] ∧
      ∀ e ∈ before, e.target = Log.gatewayTarget := by
  unfold handle
  cases begun : f.begin report uptime peer now r body with
  | answered a =>
    refine ⟨a.events, rfl, ?_⟩
    rw [events_of_begin begun]
    exact nofun
  | forwarded request => exact ⟨_, rfl, target_of_conclude r (execute request)⟩

/-- The line of a record begins with the method, the path and the status of the answer. -/
theorem messageOf_accessEvent (peer : Peer) (millis : Float) (r : Http.Request) (a : Answer) :
    Log.messageOf (accessEvent peer millis r a) =
      r.method.name ++ " " ++ r.target.path ++ " " ++ toString a.response.status :=
  rfl

end ScriptGateway.Front
