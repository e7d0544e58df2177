import ScriptGateway.Engine.Bridge
import ScriptGateway.Proofs.Engine.Activation
import ScriptGateway.Proofs.Script.Recording
/-!
# What an execution means

An execution with an interpreter can be told from the operations of its script. The response is a
summary of them that does not mention the context, and the host hears the variables, then what the
script does, then of a failure.

* `opened`, `scriptRun`, `scriptTrace`: the session of a script, its run and its operations.
* `Refuses`: why an execution is refused; `execute_refused`, `execute_free`: its two ways.
* `execute_opened`, `execute_answered`: an execution that comes to a response.
* `responseOf`: the response that operations make.
* `Meaning`, `execution_meaning`: what the caller gets and what the host hears.
-/

namespace ScriptGateway.Engine.Bridge

open Script (Context Host HostCall Session Variable)

variable {σ : Type}

/-! ## 1. The session of a script -/

/-- The session in which an execution runs its script. -/
def opened (h : Host σ) (c : Context) (script : String) (host : σ) : Session σ :=
  { script, context := c.resetOutput, host := announce h c.thread c.vars host }

/-- The end of a script and the session it leaves. -/
def scriptRun (h : Host σ) (interpreter : Script.Interpreter) (c : Context) (script : String)
    (host : σ) : Script.Ending × Session σ :=
  (interpreter script).run h (opened h c script host)

/-- The operations of a script. -/
def scriptTrace (h : Host σ) (interpreter : Script.Interpreter) (c : Context) (script : String)
    (host : σ) : List Script.Operation :=
  (interpreter script).trace h (opened h c script host)

/-- The session after the host was told of a failure. -/
def complained (h : Host σ) (ending : Script.Ending) (s : Session σ) : Session σ :=
  match ending with
  | .failed message => s.log h message .error
  | _ => s

theorem context_complained (h : Host σ) (ending : Script.Ending) (s : Session σ) :
    (complained h ending s).context = s.context := by
  cases ending <;> rfl

/-- The response is made from the context, which stays as it is. -/
theorem context_settle (h : Host σ) (backend : Backend) (ending : Script.Ending) (s : Session σ) :
    (settle h backend ending s).2.context = s.context := by
  cases ending with
  | done => cases backend <;> rfl
  | failed message => rfl
  | panicked message => rfl

/-- What a session comes to is never a refusal. -/
theorem settle_ne_refused (h : Host σ) (backend : Backend) (ending : Script.Ending)
    (s : Session σ) (e : Error) : (settle h backend ending s).1 ≠ .refused e := by
  cases ending with
  | done => cases backend <;> exact nofun
  | failed message => exact nofun
  | panicked message => exact nofun

theorem settle_interpreter (h : Host σ) (name : String) {ending : Script.Ending} (s : Session σ)
    (he : ∀ message, ending ≠ .panicked message) :
    settle h (.interpreter name) ending s =
      (.answered s.context.response, complained h ending s) := by
  cases ending with
  | done => rfl
  | failed message => rfl
  | panicked message => exact absurd rfl (he message)

theorem begin?_opened (h : Host σ) {b : Bridge} {c : Context} {script : String} (host : σ)
    (hs : script ≠ "") (hf : b.active.isActive c.thread = false) :
    b.begin? h c script host =
      .ok ({ b with active := ⟨Activation.insert c.thread script b.active.bindings⟩ },
        opened h c script host) := by
  unfold begin? Activation.bind?
  rw [if_neg hs, hf]
  rfl

/-! ## 2. Refused and answered -/

/-- Why a bridge refuses to execute a script on a context. -/
def Refuses (b : Bridge) (c : Context) (script : String) (e : Error) : Prop :=
  script = "" ∧ e = .emptyScript ∨
    script ≠ "" ∧ b.active.isActive c.thread = true ∧ e = .threadBusy c.thread

theorem exists_refuses {b : Bridge} {c : Context} {script : String}
    (hr : script = "" ∨ b.active.isActive c.thread = true) : ∃ e, b.Refuses c script e := by
  by_cases hs : script = ""
  · exact ⟨.emptyScript, .inl ⟨hs, rfl⟩⟩
  · exact ⟨.threadBusy c.thread, .inr ⟨hs, hr.resolve_left hs, rfl⟩⟩

/-- **An execution that is refused leaves everything as it was.** -/
theorem execute_refused (h : Host σ) (interpreter : Script.Interpreter) {b : Bridge} {c : Context}
    {script : String} {e : Error} (host : σ) (hr : b.Refuses c script e) :
    b.execute h interpreter c script host =
      { outcome := .refused e, bridge := b, context := c, host } := by
  unfold execute begin? Activation.bind?
  rcases hr with ⟨hs, rfl⟩ | ⟨hs, active, rfl⟩
  · rw [if_pos hs]
  · rw [if_neg hs, active]
    rfl

/-- **An execution that is not refused.** -/
theorem execute_free (h : Host σ) (interpreter : Script.Interpreter) {b : Bridge} {c : Context}
    {script : String} (host : σ) (hs : script ≠ "") (hf : b.active.isActive c.thread = false) :
    b.execute h interpreter c script host =
      let ran := run h b.backend interpreter (opened h c script host)
      let settled := settle h b.backend ran.1 ran.2
      { outcome := settled.1
        bridge := { b with
          active := Activation.release ⟨Activation.insert c.thread script b.active.bindings⟩
            settled.2.context.thread }
        context := settled.2.context
        host := settled.2.host } := by
  unfold execute
  rw [begin?_opened h host hs hf]
  rfl

/-- With an interpreter, what runs is the script. -/
theorem run_interpreter (h : Host σ) (interpreter : Script.Interpreter) {b : Bridge}
    {name : String} (c : Context) (script : String) (host : σ)
    (hb : b.backend = .interpreter name) :
    run h b.backend interpreter (opened h c script host) =
      scriptRun h interpreter c script host := by
  rw [hb]
  rfl

/-- **An execution that comes to a response**: its script does not panic. -/
theorem execute_opened (h : Host σ) (interpreter : Script.Interpreter) {b : Bridge}
    {name : String} {c : Context} {script : String} (host : σ)
    (hb : b.backend = .interpreter name) (hs : script ≠ "")
    (hf : b.active.isActive c.thread = false)
    (he : ∀ message, (scriptRun h interpreter c script host).1 ≠ .panicked message) :
    b.execute h interpreter c script host =
      { outcome := .answered (scriptRun h interpreter c script host).2.context.response
        bridge := { b with
          active := Activation.release
            ⟨Activation.insert c.thread script b.active.bindings⟩ c.thread }
        context := (scriptRun h interpreter c script host).2.context
        host := (complained h (scriptRun h interpreter c script host).1
          (scriptRun h interpreter c script host).2).host } := by
  have ran := run_interpreter h interpreter c script host hb
  have thread : (scriptRun h interpreter c script host).2.context.thread = c.thread :=
    (interpreter script).thread_run h (opened h c script host)
  have settled := settle_interpreter h name (scriptRun h interpreter c script host).2 he
  unfold execute
  rw [begin?_opened h host hs hf]
  simp only [ran]
  unfold conclude
  simp only [hb, settled, context_complained, thread]

/-- The response of an execution is that of the context as its script left it. -/
theorem execute_answered {h : Host σ} {interpreter : Script.Interpreter} {b : Bridge}
    {name : String} {c : Context} {script : String} {host : σ} {r : Script.Response}
    (hb : b.backend = .interpreter name)
    (ho : (b.execute h interpreter c script host).outcome = .answered r) :
    r = (scriptRun h interpreter c script host).2.context.response ∧
      (b.execute h interpreter c script host).context =
        (scriptRun h interpreter c script host).2.context := by
  by_cases hr : script = "" ∨ b.active.isActive c.thread = true
  · obtain ⟨e, he⟩ := exists_refuses hr
    rw [execute_refused h interpreter host he] at ho
    cases ho
  · obtain ⟨hs, hf⟩ := not_or.mp hr
    have free := Bool.eq_false_iff.mpr hf
    have he : ∀ message, (scriptRun h interpreter c script host).1 ≠ .panicked message := by
      intro message panicked
      rw [execute_free h interpreter host hs free, run_interpreter h interpreter c script host hb]
        at ho
      dsimp only at ho
      rw [panicked] at ho
      cases ho
    rw [execute_opened h interpreter host hb hs free he] at ho ⊢
    exact ⟨(Outcome.answered.inj ho).symm, rfl⟩

/-! ## 3. The response -/

/-- **The response that operations make.** -/
def responseOf (ops : List Script.Operation) : Script.Response :=
  { status := (Script.lastStatus? ops).getD Script.defaultStatus
    headers := Text.Utf8.encode
      (if (Script.headerBlock [] ops).isEmpty then Script.HeaderBlock.default
        else Script.headerBlock [] ops)
    body := Script.written ops }

/-- A context of which an execution began afresh makes the response of the operations. -/
theorem response_left {ops : List Script.Operation} {c c' : Context}
    (left : Script.Left ops c.resetOutput c') : c'.response = responseOf ops := by
  have body : c'.output = Script.written ops := left.output
  have status : c'.status = (Script.lastStatus? ops).getD Script.defaultStatus := left.status
  have block : c'.headers = Script.headerBlock [] ops := left.headers
  have set : c'.status ≠ 0 := status ▸ Script.lastStatus?_getD_ne_zero ops (by decide)
  unfold Context.response Context.headerBytes responseOf
  rw [if_neg set, body, status, block]
  split <;> rfl

/-! ## 4. What the host hears -/

/-- The calls that tell a host the variables. -/
def introductions (thread : Int32) (vars : List Variable) : List HostCall :=
  vars.map fun (name, value) => .registerVariable thread name value

/-- The calls that tell a host how a script ended: it hears of a failure. -/
def complaints (thread : Int32) : Script.Ending → List HostCall
  | .failed message => [.logMessage thread message .error]
  | _ => []

theorem announce_recording (h : Host σ) (thread : Int32) (vars : List Variable) (host : σ)
    (calls : List HostCall) :
    announce h.recording thread vars (host, calls) =
      (announce h thread vars host, calls ++ introductions thread vars) := by
  induction vars generalizing host calls with
  | nil => exact congrArg (Prod.mk host) (List.append_nil calls).symm
  | cons v vars ih =>
    obtain ⟨name, value⟩ := v
    refine (ih (h.registerVariable thread name value host)
      (calls ++ [.registerVariable thread name value])).trans ?_
    rw [List.append_assoc]
    rfl

theorem opened_recording (h : Host σ) (c : Context) (script : String) (host : σ) :
    opened h.recording c script (host, []) =
      (opened h c script host).recorded (introductions c.thread c.vars) := by
  unfold opened
  rw [announce_recording]
  rfl

theorem complained_recording (h : Host σ) (ending : Script.Ending) (s : Session σ)
    (calls : List HostCall) :
    complained h.recording ending (s.recorded calls) =
      (complained h ending s).recorded (calls ++ complaints s.context.thread ending) := by
  cases ending with
  | failed message => rfl
  | _ => exact congrArg s.recorded (List.append_nil calls).symm

/-- A script on a host that notes its calls. -/
theorem scriptRun_recording (h : Host σ) (interpreter : Script.Interpreter) (c : Context)
    (script : String) (host : σ) :
    scriptRun h.recording interpreter c script (host, []) =
      ((scriptRun h interpreter c script host).1,
        (scriptRun h interpreter c script host).2.recorded
          (introductions c.thread c.vars
            ++ c.resetOutput.calls (scriptTrace h interpreter c script host))) := by
  unfold scriptRun
  rw [opened_recording, Script.Program.run_recording]
  rfl

/-! ## 5. The meaning -/

/-- **The meaning of an execution**: what its caller gets and what its host hears. -/
structure Meaning (h : Host σ) (interpreter : Script.Interpreter) (b : Bridge) (c : Context)
    (script : String) (host : σ) : Prop where
  /-- The caller gets the response of the operations, also after a failure. -/
  response : (b.execute h interpreter c script host).outcome =
    .answered (responseOf (scriptTrace h interpreter c script host))
  /-- The header block in the response is the one that the script left in the context. -/
  block : (b.execute h interpreter c script host).context.headers =
    Script.headerBlock [] (scriptTrace h interpreter c script host)
  /-- The host hears the variables in order, then the script, then of a failure. -/
  heard : ∃ calls, Script.Mirrors c.thread (scriptTrace h interpreter c script host) calls ∧
    (b.execute h.recording interpreter c script (host, [])).host =
      ((b.execute h interpreter c script host).host,
        introductions c.thread c.vars ++ calls
          ++ complaints c.thread (scriptRun h interpreter c script host).1)
  /-- Noting the calls makes no difference to the caller. -/
  unnoticed : (b.execute h.recording interpreter c script (host, [])).outcome =
    (b.execute h interpreter c script host).outcome
  /-- The same threads are active as before. -/
  released : ∀ thread, (b.execute h interpreter c script host).bridge.active.isActive thread =
    b.active.isActive thread

/-- **Every execution of a script on a free thread means what its operations say**, if the script
does not panic. -/
theorem execution_meaning (h : Host σ) (interpreter : Script.Interpreter) (b : Bridge)
    (name : String) (c : Context) (script : String) (host : σ)
    (hb : b.backend = .interpreter name) (hs : script ≠ "")
    (hf : b.active.isActive c.thread = false)
    (he : ∀ message, (scriptRun h interpreter c script host).1 ≠ .panicked message) :
    Meaning h interpreter b c script host := by
  have plain := execute_opened h interpreter host hb hs hf he
  have noted := scriptRun_recording h interpreter c script host
  have he' : ∀ message, (scriptRun h.recording interpreter c script (host, [])).1 ≠
      .panicked message := by
    rw [noted]
    exact he
  have recorded := execute_opened h.recording interpreter (host, []) hb hs hf he'
  rw [noted] at recorded
  have left : Script.Left (scriptTrace h interpreter c script host) c.resetOutput
      (scriptRun h interpreter c script host).2.context :=
    (interpreter script).run_context h (opened h c script host)
  have thread : (scriptRun h interpreter c script host).2.context.thread = c.thread := left.thread
  refine ⟨?_, ?_, ⟨c.resetOutput.calls (scriptTrace h interpreter c script host),
    Script.mirrors_callsOf _ _ _ _ _, ?_⟩, ?_, ?_⟩
  · rw [plain, response_left left]
  · rw [plain]
    exact left.headers
  · rw [recorded, plain]
    simp only [complained_recording, thread]
    rfl
  · rw [recorded, plain]
    rfl
  · intro thread
    rw [plain]
    exact Activation.isActive_insert_release script hf thread

/-- A script that finds no cookies: it writes, sets a status with a header line, and fails. -/
def lost : Script.Interpreter := fun _ =>
  .ask .readCookies fun
    | some _ => .done
    | none => .ask (.write [120]) fun _ => .ask (.addHeader "HTTP/1.1 404 Lost") fun _ =>
      .fail "lost"

/-- A context of thread 2 with a variable twice and what an earlier execution left. -/
def used : Context :=
  { Context.new with
    thread := 2
    vars := [("a", "1"), ("b", "2"), ("a", "3")]
    output := [1, 2, 3]
    headers := ['X', ':', 'y']
    status := 500 }

/-- A bridge with an interpreter, on which thread 1 executes a script. -/
def busy : Bridge :=
  { backend := .interpreter "test", active := ⟨[(1, "other")]⟩ }

theorem execution_meaning_lost : busy.backend = .interpreter "test" ∧ "script" ≠ "" ∧
    busy.active.isActive used.thread = false ∧
    (∀ message, (scriptRun Host.silent lost used "script" ()).1 ≠ .panicked message) ∧
    Meaning Host.silent lost busy used "script" () ∧
    (busy.execute Host.silent lost used "script" ()).outcome = .answered
      { status := 404, headers := Text.Utf8.encode Script.HeaderBlock.default, body := [120] } := by
  have he : ∀ message, (scriptRun Host.silent lost used "script" ()).1 ≠ .panicked message :=
    fun _ => Script.Ending.noConfusion
  have meaning := execution_meaning Host.silent lost busy "test" used "script" () rfl
    (by decide) (by decide) he
  refine ⟨rfl, by decide, by decide, he, meaning, ?_⟩
  rw [meaning.response]
  decide +kernel

end ScriptGateway.Engine.Bridge
