import ScriptGateway.Proofs.Engine.Execution
import ScriptGateway.Proofs.Script.Reading
/-!
# Executing a script again

A context can be executed more than once. An execution starts from the variables, the paths and
the body of its context; of what an earlier one left there it drops all but how far the body was
read.

* `Host.Steady`: a host that answers equal calls equally.
* `Context.Alike`, `run_alike`: contexts that a script cannot tell apart.
* `outcome_congr`: on what the outcome of an execution depends.
* `Idempotent`, `reexecution`: when a second execution comes to the same as the first.
-/

namespace ScriptGateway.Script

variable {σ : Type}

/-! ## 1. What a script can tell apart -/

/-- **A host that answers equal calls equally**, whatever it was told before. What it answers to
output is seen by nobody. -/
structure Host.Steady (h : Host σ) : Prop where
  sendHeaders : ∀ thread status headers host host',
    (h.sendHeaders thread status headers host).1 = (h.sendHeaders thread status headers host').1
  readBody : ∀ thread size host host',
    (h.readBody thread size host).1 = (h.readBody thread size host').1
  readCookies : ∀ thread host host',
    (h.readCookies thread host).1 = (h.readCookies thread host').1

/-- Contexts that differ in nothing but room. -/
def Context.Alike (c c' : Context) : Prop :=
  ∃ slots room, c' = { c with variableSlots := slots, outputRoom := room }

/-- Sessions of one script on contexts that differ in nothing but room. -/
structure Session.Alike (s s' : Session σ) : Prop where
  script : s'.script = s.script
  context : s.context.Alike s'.context

/-- Contexts that differ in nothing but room make the same response. -/
theorem Context.Alike.response {c c' : Context} (h : c.Alike c') : c'.response = c.response := by
  obtain ⟨slots, room, rfl⟩ := h
  rfl

theorem Context.Alike.thread {c c' : Context} (h : c.Alike c') : c'.thread = c.thread := by
  obtain ⟨slots, room, rfl⟩ := h
  rfl

theorem Context.Alike.setStatus {c c' : Context} (h : c.Alike c') (status : Nat) :
    (c.setStatus status).Alike (c'.setStatus status) := by
  obtain ⟨slots, room, rfl⟩ := h
  rw [Context.setStatus_eq, Context.setStatus_eq]
  exact ⟨slots, room, rfl⟩

theorem Context.Alike.addHeader {c c' : Context} (h : c.Alike c') (line : String) :
    (c.addHeader line).Alike (c'.addHeader line) := by
  obtain ⟨slots, room, rfl⟩ := h
  rw [Context.addHeader_eq, Context.addHeader_eq]
  exact ⟨slots, room, rfl⟩

theorem Context.Alike.replaceHeader {c c' : Context} (h : c.Alike c') (line : String) :
    (c.replaceHeader line).Alike (c'.replaceHeader line) := by
  obtain ⟨slots, room, rfl⟩ := h
  rw [Context.replaceHeader_eq, Context.replaceHeader_eq]
  exact ⟨slots, room, rfl⟩

/-- **An operation is answered alike in sessions that are alike.** -/
theorem Session.perform_alike {h : Host σ} (steady : h.Steady) {s s' : Session σ}
    (alike : s.Alike s') (op : Operation) :
    (perform h op s').1 = (perform h op s).1 ∧
      (perform h op s).2.Alike (perform h op s').2 := by
  obtain ⟨script, c, host⟩ := s
  obtain ⟨script', c', host'⟩ := s'
  obtain ⟨e, slots, room, ec⟩ := alike
  obtain rfl : script' = script := e
  obtain rfl : c' = { c with variableSlots := slots, outputRoom := room } := ec
  have same (c : Context) : c.Alike { c with variableSlots := slots, outputRoom := room } :=
    ⟨slots, room, rfl⟩
  cases op with
  | write data =>
    simp only [perform, write]
    split
    · exact ⟨rfl, rfl, same c⟩
    · exact ⟨rfl, rfl, slots, _, rfl⟩
  | setStatus status => exact ⟨rfl, rfl, (same c).setStatus status⟩
  | addHeader line => exact ⟨rfl, rfl, (same c).addHeader line⟩
  | replaceHeader line => exact ⟨rfl, rfl, (same c).replaceHeader line⟩
  | removeHeader name => exact ⟨rfl, rfl, slots, room, rfl⟩
  | clearHeaders => exact ⟨rfl, rfl, slots, room, rfl⟩
  | sendHeaders => exact ⟨steady.sendHeaders _ _ _ host' host, rfl, same c⟩
  | readBody size =>
    simp only [perform, Session.readBody]
    split
    · exact ⟨rfl, rfl, same c⟩
    · split
      · exact ⟨rfl, rfl, slots, room, rfl⟩
      · exact ⟨steady.readBody _ size host' host, rfl, same c⟩
  | readCookies => exact ⟨steady.readCookies _ host' host, rfl, same c⟩
  | log message priority => exact ⟨rfl, rfl, same c⟩
  | look => exact ⟨rfl, rfl, same c⟩

/-- **A script ends alike in sessions that are alike.** -/
theorem Program.run_alike {h : Host σ} (steady : h.Steady) (p : Program) {s s' : Session σ}
    (alike : s.Alike s') :
    (p.run h s').1 = (p.run h s).1 ∧ (p.run h s).2.Alike (p.run h s').2 := by
  induction p generalizing s s' with
  | done => exact ⟨rfl, alike⟩
  | fail message => exact ⟨rfl, alike⟩
  | panic message => exact ⟨rfl, alike⟩
  | ask op next ih =>
    obtain ⟨answers, sessions⟩ := Session.perform_alike steady alike op
    show ((next (Session.perform h op s').1).run h (Session.perform h op s').2).1 =
        ((next (Session.perform h op s).1).run h (Session.perform h op s).2).1 ∧
      ((next (Session.perform h op s).1).run h (Session.perform h op s).2).2.Alike
        ((next (Session.perform h op s').1).run h (Session.perform h op s').2).2
    rw [answers]
    exact ih _ sessions

/-! ## 2. What a script leaves as it was -/

/-- What a script is given besides a body. -/
structure Given where
  thread : Int32
  documentRoot : Option String
  scriptPath : Option String
  vars : List Variable

/-- What a context gives a script besides its body. -/
def Context.given (c : Context) : Given :=
  { thread := c.thread, documentRoot := c.documentRoot, scriptPath := c.scriptPath, vars := c.vars }

/-- Contexts that give the same are alike once their output is dropped. -/
theorem Context.alike_resetOutput {c c' : Context} (hg : c'.given = c.given)
    (hb : c'.body = c.body) : c.resetOutput.Alike c'.resetOutput := by
  obtain ⟨thread, root, path, body, vars, slots, output, room, headers, status⟩ := c
  obtain ⟨thread', root', path', body', vars', slots', output', room', headers', status'⟩ := c'
  obtain ⟨rfl, rfl, rfl, rfl⟩ := Given.mk.inj hg
  obtain rfl : body' = body := hb
  exact ⟨slots', room', rfl⟩

theorem Session.given_perform (h : Host σ) (op : Operation) (s : Session σ) :
    (perform h op s).2.context.given = s.context.given := by
  cases op with
  | write data =>
    simp only [perform, write]
    split <;> rfl
  | setStatus status =>
    show (s.context.setStatus status).given = s.context.given
    rw [Context.setStatus_eq]
    rfl
  | addHeader line =>
    show (s.context.addHeader line).given = s.context.given
    rw [Context.addHeader_eq]
    rfl
  | replaceHeader line =>
    show (s.context.replaceHeader line).given = s.context.given
    rw [Context.replaceHeader_eq]
    rfl
  | readBody size =>
    simp only [perform, Session.readBody]
    split
    · rfl
    · split <;> rfl
  | _ => rfl

theorem Program.given_run (h : Host σ) (p : Program) (s : Session σ) :
    (p.run h s).2.context.given = s.context.given := by
  induction p generalizing s with
  | done => rfl
  | fail message => rfl
  | panic message => rfl
  | ask op next ih => exact (ih _ _).trans (s.given_perform h op)

/-- A body is read, and never changed. -/
theorem Session.content_perform (h : Host σ) (op : Operation) (s : Session σ) :
    (perform h op s).2.context.body.content = s.context.body.content := by
  by_cases ho : ∃ size, op = .readBody size
  · obtain ⟨size, rfl⟩ := ho
    simp only [perform, Session.readBody]
    split
    · rfl
    · split
      · exact s.context.body.content_read size
      · rfl
  · rw [body_perform h op (fun size e => ho ⟨size, e⟩) s]

theorem Program.content_run (h : Host σ) (p : Program) (s : Session σ) :
    (p.run h s).2.context.body.content = s.context.body.content := by
  induction p generalizing s with
  | done => rfl
  | fail message => rfl
  | panic message => rfl
  | ask op next ih => exact (ih _ _).trans (s.content_perform h op)

/-- A body that was read to its end stays so. -/
theorem Session.body_perform_of_end (h : Host σ) (op : Operation) {s : Session σ}
    (hu : s.context.body.unread = []) : (perform h op s).2.context.body = s.context.body := by
  by_cases ho : ∃ size, op = .readBody size
  · obtain ⟨size, rfl⟩ := ho
    simp only [perform, Session.readBody]
    split
    · rfl
    · split
      · show Body.mk (s.context.body.consumed ++ s.context.body.unread.take size)
          (s.context.body.unread.drop size) = s.context.body
        rw [hu, List.take_nil, List.drop_nil, List.append_nil, ← hu]
      · rfl
  · exact body_perform h op (fun size e => ho ⟨size, e⟩) s

theorem Program.body_run_of_end (h : Host σ) (p : Program) {s : Session σ}
    (hu : s.context.body.unread = []) : (p.run h s).2.context.body = s.context.body := by
  induction p generalizing s with
  | done => rfl
  | fail message => rfl
  | panic message => rfl
  | ask op next ih =>
    have first := s.body_perform_of_end h op hu
    exact (ih _ (first ▸ hu)).trans first

end ScriptGateway.Script

namespace ScriptGateway.Engine.Bridge

open Script (Context Host Session)

variable {σ : Type}

/-! ## 3. The outcome of an execution -/

/-- What a backend runs leaves what the context gives. -/
theorem given_run (h : Host σ) (backend : Backend) (interpreter : Script.Interpreter)
    (s : Session σ) : (run h backend interpreter s).2.context.given = s.context.given := by
  cases backend with
  | fallback => rfl
  | interpreter name => exact (interpreter s.script).given_run h s

theorem content_run (h : Host σ) (backend : Backend) (interpreter : Script.Interpreter)
    (s : Session σ) :
    (run h backend interpreter s).2.context.body.content = s.context.body.content := by
  cases backend with
  | fallback => rfl
  | interpreter name => exact (interpreter s.script).content_run h s

/-- What a backend runs comes to the same in sessions that are alike. -/
theorem settle_alike {h : Host σ} (steady : h.Steady) (backend : Backend)
    (interpreter : Script.Interpreter) {s s' : Session σ} (alike : s.Alike s') :
    (settle h backend (run h backend interpreter s').1 (run h backend interpreter s').2).1 =
      (settle h backend (run h backend interpreter s).1 (run h backend interpreter s).2).1 := by
  cases backend with
  | fallback =>
    show Outcome.answered (Script.FallbackPage.response s'.script s'.context.thread) =
      .answered (Script.FallbackPage.response s.script s.context.thread)
    rw [alike.script, alike.context.thread]
  | interpreter name =>
    obtain ⟨endings, finished⟩ := (interpreter s.script).run_alike steady alike
    have ran' : run h (.interpreter name) interpreter s' = (interpreter s.script).run h s' := by
      show (interpreter s'.script).run h s' = _
      rw [alike.script]
    rw [ran', endings]
    show (settle h (.interpreter name) ((interpreter s.script).run h s).1
        ((interpreter s.script).run h s').2).1 =
      (settle h (.interpreter name) ((interpreter s.script).run h s).1
        ((interpreter s.script).run h s).2).1
    cases ((interpreter s.script).run h s).1 with
    | done => exact congrArg Outcome.answered finished.context.response
    | failed message => exact congrArg Outcome.answered finished.context.response
    | panicked message => rfl

/-- **On what the outcome of an execution depends**: on what the context gives, on its body, and on
whether the thread is free. -/
theorem outcome_congr {h : Host σ} (steady : h.Steady) (interpreter : Script.Interpreter)
    {b b' : Bridge} {c c' : Context} (script : String) (host host' : σ)
    (hb : b'.backend = b.backend) (hg : c'.given = c.given) (hc : c'.body = c.body)
    (ha : b'.active.isActive c.thread = b.active.isActive c.thread) :
    (b'.execute h interpreter c' script host').outcome =
      (b.execute h interpreter c script host).outcome := by
  have thread : c'.thread = c.thread := congrArg Script.Given.thread hg
  by_cases hs : script = ""
  · subst hs
    rfl
  · cases hf : b.active.isActive c.thread with
    | true =>
      unfold execute begin? Activation.bind?
      rw [if_neg hs, if_neg hs, thread, ha, hf]
      rfl
    | false =>
      have alike : (opened h c script host).Alike (opened h c' script host') :=
        ⟨rfl, Context.alike_resetOutput hg hc⟩
      rw [execute_free h interpreter host hs hf,
        execute_free h interpreter host' hs (by rw [thread, ha, hf])]
      show (settle h b'.backend (run h b'.backend interpreter (opened h c' script host')).1
          (run h b'.backend interpreter (opened h c' script host')).2).1 = _
      rw [hb]
      exact settle_alike steady b.backend interpreter alike

/-- **What an execution leaves as it was**: the backend, what the context gives, the bytes of the
body, and which threads are active. -/
theorem execute_keeps (h : Host σ) (interpreter : Script.Interpreter) (b : Bridge) (c : Context)
    (script : String) (host : σ) :
    (b.execute h interpreter c script host).bridge.backend = b.backend ∧
      (b.execute h interpreter c script host).context.given = c.given ∧
      (b.execute h interpreter c script host).context.body.content = c.body.content ∧
      ∀ thread, (b.execute h interpreter c script host).bridge.active.isActive thread =
        b.active.isActive thread := by
  by_cases hr : script = "" ∨ b.active.isActive c.thread = true
  · obtain ⟨e, he⟩ := exists_refuses hr
    rw [execute_refused h interpreter host he]
    exact ⟨rfl, rfl, rfl, fun _ => rfl⟩
  · obtain ⟨hs, hf⟩ := not_or.mp hr
    have free := Bool.eq_false_iff.mpr hf
    rw [execute_free h interpreter host hs free]
    dsimp only
    rw [context_settle]
    have given := given_run h b.backend interpreter (opened h c script host)
    have thread : (run h b.backend interpreter (opened h c script host)).2.context.thread =
        c.thread := congrArg Script.Given.thread given
    refine ⟨rfl, given, content_run h b.backend interpreter (opened h c script host),
      fun t => ?_⟩
    rw [thread]
    exact Activation.isActive_insert_release script free t

/-! ## 4. A second execution -/

/-- The same script is executed again on the context that an execution left. -/
def again (h : Host σ) (interpreter : Script.Interpreter) (first : Execution σ) (script : String) :
    Execution σ :=
  first.bridge.execute h interpreter first.context script first.host

/-- Whether a second execution comes to the same as the first, for every interpreter and every
steady host. -/
def Idempotent (b : Bridge) (c : Context) (script : String) : Prop :=
  ∀ (σ : Type) (h : Host σ), h.Steady → ∀ (interpreter : Script.Interpreter) (host : σ),
    (again h interpreter (b.execute h interpreter c script host) script).outcome =
      (b.execute h interpreter c script host).outcome

/-- **All that an execution leaves for the next one is how far the body was read.** -/
theorem outcome_again {h : Host σ} (steady : h.Steady) (interpreter : Script.Interpreter)
    (b : Bridge) (c : Context) (script : String) (host host' : σ) (body : Script.Body) :
    ((b.execute h interpreter c script host).bridge.execute h interpreter
        { (b.execute h interpreter c script host).context with body } script host').outcome =
      (b.execute h interpreter { c with body } script host).outcome := by
  obtain ⟨backend, given, -, active⟩ := execute_keeps h interpreter b c script host
  exact outcome_congr steady interpreter script host host' backend given rfl (active c.thread)

theorem again_of_body {h : Host σ} (steady : h.Steady) {interpreter : Script.Interpreter}
    {b : Bridge} {c : Context} {script : String} {host : σ}
    (hb : (b.execute h interpreter c script host).context.body = c.body) :
    (again h interpreter (b.execute h interpreter c script host) script).outcome =
      (b.execute h interpreter c script host).outcome := by
  have left := outcome_again steady interpreter b c script host
    (b.execute h interpreter c script host).host c.body
  rw [← hb] at left
  unfold again
  rw [left, hb]

/-- The host that has nothing to say is steady. -/
theorem steady_silent : Host.silent.Steady :=
  ⟨fun _ _ _ _ _ => rfl, fun _ _ _ _ => rfl, fun _ _ _ => rfl⟩

/-- An interpreter that reads so many bytes of the body and writes them. -/
def echo (size : Nat) : Script.Interpreter := fun _ =>
  .ask (.readBody size) fun data => .ask (.write data) fun _ => .done

/-- What is written is what is next in the body, and then it was read. -/
theorem execute_echo {b : Bridge} {name : String} {c : Context} {script : String}
    (hb : b.backend = .interpreter name) (hs : script ≠ "")
    (hf : b.active.isActive c.thread = false) (size : Nat) :
    (b.execute Host.silent (echo size) c script ()).outcome =
        .answered (responseOf [.readBody size, .write (c.body.unread.take size)]) ∧
      (b.execute Host.silent (echo size) c script ()).context.body = (c.body.read size).2 := by
  have ended : ∀ message, (scriptRun Host.silent (echo size) c script ()).1 ≠ .panicked message :=
    fun _ => Script.Ending.noConfusion
  have left : Script.Left (scriptTrace Host.silent (echo size) c script ()) c.resetOutput
      (scriptRun Host.silent (echo size) c script ()).2.context :=
    (echo size script).run_context Host.silent (opened Host.silent c script ())
  obtain ⟨data, body⟩ := Session.readBody_own (s := opened Host.silent c script ())
    (h := Host.silent) (.inl fun _ _ _ => rfl) size
  have trace : scriptTrace Host.silent (echo size) c script () =
      [.readBody size, .write (c.body.unread.take size)] :=
    congrArg (fun data => [Script.Operation.readBody size, .write data]) data
  rw [execute_opened Host.silent (echo size) () hb hs hf ended]
  refine ⟨?_, ?_⟩
  · rw [response_left left, trace]
  · exact (Session.body_perform Host.silent (.write _) (fun _ => nofun) _).trans body

/-- A script that reads all that is left of a body and writes it finds nothing the second time. -/
theorem unread_of_idempotent {b : Bridge} {name : String} {c : Context} {script : String}
    (hb : b.backend = .interpreter name) (hs : script ≠ "")
    (hf : b.active.isActive c.thread = false) (h : Idempotent b c script) :
    c.body.unread = [] := by
  obtain ⟨backend, given, -, active⟩ :=
    execute_keeps Host.silent (echo c.body.unread.length) b c script ()
  obtain ⟨first, body⟩ := execute_echo hb hs hf c.body.unread.length
  have same := h Unit Host.silent steady_silent (echo c.body.unread.length) ()
  unfold again at same
  rw [first] at same
  generalize b.execute Host.silent (echo c.body.unread.length) c script () = run
    at same body backend given active
  have thread : run.context.thread = c.thread := congrArg Script.Given.thread given
  have free : run.bridge.active.isActive run.context.thread = false := by
    rw [thread, active, hf]
  have second := (execute_echo (backend.trans hb) hs free c.body.unread.length).1
  have used : run.context.body.unread = [] := by
    rw [body]
    exact List.drop_length
  have bodies := congrArg Script.Response.body
    (Outcome.answered.inj (second.symm.trans same))
  simpa [responseOf, Script.written, Script.Operation.written, used] using bodies.symm

/-- **When a second execution comes to the same as the first**, for all that scripts may do: the
body was read to its end before the first one, or nothing is executed. -/
theorem idempotent_iff (b : Bridge) (c : Context) (script : String) :
    Idempotent b c script ↔
      c.body.unread = [] ∨ b.backend = .fallback ∨ script = "" ∨
        b.active.isActive c.thread = true := by
  by_cases hr : script = "" ∨ b.active.isActive c.thread = true
  · refine ⟨fun _ => .inr (.inr hr), fun _ σ h steady interpreter host => ?_⟩
    obtain ⟨e, he⟩ := exists_refuses hr
    exact again_of_body steady (by rw [execute_refused h interpreter host he])
  · obtain ⟨hs, hf⟩ := not_or.mp hr
    have free := Bool.eq_false_iff.mpr hf
    have kept {σ : Type} {h : Host σ} {interpreter : Script.Interpreter} {host : σ}
        (hb : (run h b.backend interpreter (opened h c script host)).2.context.body = c.body) :
        (b.execute h interpreter c script host).context.body = c.body := by
      rw [execute_free h interpreter host hs free]
      dsimp only
      rw [context_settle]
      exact hb
    cases hb : b.backend with
    | fallback =>
      refine ⟨fun _ => .inr (.inl rfl), fun _ σ h steady interpreter host => ?_⟩
      exact again_of_body steady (kept (by rw [hb]; rfl))
    | interpreter name =>
      constructor
      · intro idempotent
        exact .inl (unread_of_idempotent hb hs free idempotent)
      · intro h σ host steady interpreter state
        have used : c.body.unread = [] := h.resolve_right (by simp [hs, hf])
        exact again_of_body steady (kept (by
          rw [hb]
          exact (interpreter script).body_run_of_end host used))

/-- **A second execution on a context.** -/
structure Reexecution (b : Bridge) (c : Context) (script : String) : Prop where
  /-- It comes to what the first would have come to on the body as it was left, and that body holds
  the same bytes: nothing else that the first execution left can be seen. -/
  leaves : ∀ {σ : Type} {h : Host σ}, h.Steady → ∀ (interpreter : Script.Interpreter) (host : σ),
    (again h interpreter (b.execute h interpreter c script host) script).outcome =
        (b.execute h interpreter
          { c with body := (b.execute h interpreter c script host).context.body } script
          host).outcome ∧
      (b.execute h interpreter c script host).context.body.content = c.body.content
  /-- A script that leaves the body alone comes to the same. -/
  unread : ∀ {σ : Type} {h : Host σ}, h.Steady → ∀ (interpreter : Script.Interpreter) (host : σ),
    (b.execute h interpreter c script host).context.body = c.body →
      (again h interpreter (b.execute h interpreter c script host) script).outcome =
        (b.execute h interpreter c script host).outcome
  /-- So does every script if the body is put in place once more. -/
  putBack : ∀ {σ : Type} {h : Host σ}, h.Steady → ∀ (interpreter : Script.Interpreter) (host : σ)
    (content : Bytes), c.body = .ofBytes content →
      ((b.execute h interpreter c script host).bridge.execute h interpreter
          ((b.execute h interpreter c script host).context.setBody content) script
          (b.execute h interpreter c script host).host).outcome =
        (b.execute h interpreter c script host).outcome
  /-- Without that, every script does only if there is nothing left to read. -/
  exact : Idempotent b c script ↔
    c.body.unread = [] ∨ b.backend = .fallback ∨ script = "" ∨ b.active.isActive c.thread = true

theorem reexecution (b : Bridge) (c : Context) (script : String) : Reexecution b c script where
  leaves steady interpreter host :=
    ⟨outcome_again steady interpreter b c script host _ _, (execute_keeps _ _ _ _ _ _).2.2.1⟩
  unread steady _ _ hb := again_of_body steady hb
  putBack {σ h} steady interpreter host content hc := by
    have put := outcome_again steady interpreter b c script host
      (b.execute h interpreter c script host).host (.ofBytes content)
    have same : { c with body := .ofBytes content } = c := by rw [← hc]
    rw [same] at put
    exact put
  exact := idempotent_iff b c script

/-- A bridge with an interpreter, on which nothing executes. -/
def unbound : Bridge :=
  .ofBackend (.interpreter "test")

/-- A context with a body of two bytes. -/
def posted : Context :=
  Context.new.setBody [97, 98]

/-- The response that consists of some output. -/
def page (body : Bytes) : Script.Response :=
  { status := 200, headers := Text.Utf8.encode Script.HeaderBlock.default, body }

/-- A script that echoes the body, executed again after the body was put in place once more. -/
theorem reexecution_putBack :
    (unbound.execute Host.silent (echo 8) posted "a" ()).outcome = .answered (page [97, 98]) ∧
      ((unbound.execute Host.silent (echo 8) posted "a" ()).bridge.execute Host.silent (echo 8)
        ((unbound.execute Host.silent (echo 8) posted "a" ()).context.setBody [97, 98]) "a"
        ()).outcome = .answered (page [97, 98]) := by
  have first : (unbound.execute Host.silent (echo 8) posted "a" ()).outcome =
      .answered (page [97, 98]) := by
    decide +kernel
  exact ⟨first, ((reexecution unbound posted "a").putBack steady_silent (echo 8) () [97, 98]
    rfl).trans first⟩

/-- **The second execution finds the body read.** With nothing done in between, the same script
echoes two bytes and then none. -/
theorem second_execution_differs :
    (unbound.execute Host.silent (echo 8) posted "a" ()).outcome = .answered (page [97, 98]) ∧
      (again Host.silent (echo 8) (unbound.execute Host.silent (echo 8) posted "a" ())
        "a").outcome = .answered (page []) ∧
      ¬ ∀ (b : Bridge) (c : Context) (script : String), script ≠ "" → Idempotent b c script := by
  have first : (unbound.execute Host.silent (echo 8) posted "a" ()).outcome =
      .answered (page [97, 98]) := by
    decide +kernel
  have second : (again Host.silent (echo 8) (unbound.execute Host.silent (echo 8) posted "a" ())
      "a").outcome = .answered (page []) := by
    decide +kernel
  refine ⟨first, second, fun idempotent => ?_⟩
  have same := idempotent unbound posted "a" (by decide) Unit Host.silent steady_silent (echo 8) ()
  rw [first, second] at same
  cases same

end ScriptGateway.Engine.Bridge
