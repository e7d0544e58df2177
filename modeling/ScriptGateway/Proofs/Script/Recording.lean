import ScriptGateway.Proofs.Script.Trace
/-!
# What a host is told

Any host can be made to note the calls it gets. The notes change nothing else, and what is noted
can be told from the operations of a script.

* `HostCall`, `Host.recording`: a host that notes its calls.
* `callsOf`: the calls that a list of operations makes, given status and header block before it.
* `Program.run_recording`: a program on a host that notes its calls.
* `Mirrors`: calls that bring the output and the messages of operations; `mirrors_callsOf`.
-/

namespace ScriptGateway.Script

/-! ## 1. Noted calls -/

/-- A call of a host. -/
inductive HostCall where
  | writeOutput (thread : Int32) (data : Bytes)
  | sendHeaders (thread : Int32) (status : Nat) (headers : Bytes)
  | readBody (thread : Int32) (size : Nat)
  | readCookies (thread : Int32)
  | registerVariable (thread : Int32) (name value : String)
  | logMessage (thread : Int32) (message : String) (priority : Priority)
  deriving DecidableEq, Repr

namespace HostCall

/-- The thread a call is meant for. -/
def thread : HostCall → Int32
  | writeOutput thread _ => thread
  | sendHeaders thread _ _ => thread
  | readBody thread _ => thread
  | readCookies thread => thread
  | registerVariable thread _ _ => thread
  | logMessage thread _ _ => thread

/-- The output that a call brings. -/
def written : HostCall → Bytes
  | writeOutput _ data => data
  | _ => []

/-- The variable that a call tells. -/
def told? : HostCall → Option Variable
  | registerVariable _ name value => some (name, value)
  | _ => none

/-- The message that a call brings. -/
def logged? : HostCall → Option (String × Priority)
  | logMessage _ message priority => some (message, priority)
  | _ => none

end HostCall

variable {σ : Type}

/-- The host that notes its calls, and otherwise does what the other host does. -/
def Host.recording (h : Host σ) : Host (σ × List HostCall) where
  writeOutput thread data s :=
    let (accepted, host) := h.writeOutput thread data s.1
    (accepted, host, s.2 ++ [.writeOutput thread data])
  sendHeaders thread status headers s :=
    let (delivered, host) := h.sendHeaders thread status headers s.1
    (delivered, host, s.2 ++ [.sendHeaders thread status headers])
  readBody thread size s :=
    let (data, host) := h.readBody thread size s.1
    (data, host, s.2 ++ [.readBody thread size])
  readCookies thread s :=
    let (cookies, host) := h.readCookies thread s.1
    (cookies, host, s.2 ++ [.readCookies thread])
  registerVariable thread name value s :=
    (h.registerVariable thread name value s.1, s.2 ++ [.registerVariable thread name value])
  logMessage thread message priority s :=
    (h.logMessage thread message priority s.1, s.2 ++ [.logMessage thread message priority])

/-- A session on a host that notes its calls. -/
def Session.recorded (s : Session σ) (calls : List HostCall) : Session (σ × List HostCall) :=
  { script := s.script, context := s.context, host := (s.host, calls) }

/-! ## 2. The calls of a script -/

/-- The calls that one operation makes. Output goes to the host as it is, a body only comes from
the host if the context has none. -/
def Operation.calls (thread : Int32) (hasBody : Bool) (status : Nat) (block : List Char) :
    Operation → List HostCall
  | write data => if data.isEmpty then [] else [.writeOutput thread data]
  | sendHeaders => [.sendHeaders thread status (Text.Utf8.encode block)]
  | readBody size => if size = 0 then [] else if hasBody then [] else [.readBody thread size]
  | readCookies => [.readCookies thread]
  | log message priority => [.logMessage thread message priority]
  | _ => []

/-- The calls that operations make one after another. -/
def callsOf (thread : Int32) (hasBody : Bool) :
    Nat → List Char → List Operation → List HostCall
  | _, _, [] => []
  | status, block, op :: ops =>
    op.calls thread hasBody status block
      ++ callsOf thread hasBody (op.status?.getD status) (op.edit block) ops

/-- The calls of operations on a context. -/
def Context.calls (c : Context) (ops : List Operation) : List HostCall :=
  callsOf c.thread c.body.isPresent c.status c.headers ops

theorem Did.calls {op : Operation} {ops : List Operation} {c c' : Context} (h : Did op c c') :
    c.calls (op :: ops) =
      op.calls c.thread c.body.isPresent c.status c.headers ++ c'.calls ops := by
  unfold Context.calls
  rw [h.thread, h.hasBody, h.status, h.headers]
  rfl

/-- **One operation on a host that notes its calls.** -/
theorem Session.perform_recording (h : Host σ) (op : Operation) (s : Session σ)
    (calls : List HostCall) :
    Session.perform h.recording op (s.recorded calls) =
      ((Session.perform h op s).1,
        (Session.perform h op s).2.recorded
          (calls ++ op.calls s.context.thread s.context.body.isPresent s.context.status
            s.context.headers)) := by
  have same : s.recorded (calls ++ []) = s.recorded calls := by rw [List.append_nil]
  cases op with
  | write data =>
    simp only [Session.perform, Session.write, Operation.calls]
    split
    · rw [same]
    · rfl
  | readBody size =>
    simp only [Session.perform, Session.readBody, Operation.calls]
    split
    · rw [same]
    · show (if s.context.body.isPresent = true then _ else _) = _
      split
      · rw [List.append_nil]
        rfl
      · rfl
  | sendHeaders => rfl
  | readCookies => rfl
  | log message priority => rfl
  | _ =>
    simp only [Session.perform, Operation.calls, List.append_nil]
    rfl

/-- **A program on a host that notes its calls.** -/
theorem Program.run_recording (h : Host σ) (p : Program) (s : Session σ) (calls : List HostCall) :
    p.run h.recording (s.recorded calls) =
      ((p.run h s).1, (p.run h s).2.recorded (calls ++ s.context.calls (p.trace h s))) := by
  induction p generalizing s calls with
  | done => exact congrArg (fun l => (Ending.done, s.recorded l)) (List.append_nil calls).symm
  | fail message =>
    exact congrArg (fun l => (Ending.failed message, s.recorded l)) (List.append_nil calls).symm
  | panic message =>
    exact congrArg (fun l => (Ending.panicked message, s.recorded l)) (List.append_nil calls).symm
  | ask op next ih =>
    simp only [Program.run, Program.trace]
    rw [Session.perform_recording, (Session.did_perform h op s).calls, ← List.append_assoc]
    exact ih _ _ _

/-! ## 3. What the calls of a script bring -/

/-- The message that an operation sends. -/
def Operation.logged? : Operation → Option (String × Priority)
  | log message priority => some (message, priority)
  | _ => none

/-- **Calls that bring what operations write and log**, for one thread, and tell no variable. -/
structure Mirrors (thread : Int32) (ops : List Operation) (calls : List HostCall) : Prop where
  output : calls.flatMap HostCall.written = written ops
  messages : calls.filterMap HostCall.logged? = ops.filterMap Operation.logged?
  tagged : ∀ call ∈ calls, call.thread = thread
  noVariable : ∀ call ∈ calls, call.told? = none

theorem Mirrors.nil (thread : Int32) : Mirrors thread [] [] :=
  ⟨rfl, rfl, fun _ h => (List.not_mem_nil h).elim, fun _ h => (List.not_mem_nil h).elim⟩

theorem Mirrors.append {thread : Int32} {ops ops' : List Operation} {calls calls' : List HostCall}
    (h : Mirrors thread ops calls) (h' : Mirrors thread ops' calls') :
    Mirrors thread (ops ++ ops') (calls ++ calls') where
  output := by
    rw [List.flatMap_append, h.output, h'.output]
    exact List.flatMap_append.symm
  messages := by rw [List.filterMap_append, List.filterMap_append, h.messages, h'.messages]
  tagged := fun call hm => (List.mem_append.mp hm).elim (h.tagged call) (h'.tagged call)
  noVariable := fun call hm => (List.mem_append.mp hm).elim (h.noVariable call) (h'.noVariable call)

/-- A call on its own, of an operation on its own. -/
theorem Mirrors.one {thread : Int32} {op : Operation} {call : HostCall}
    (ht : call.thread = thread) (hw : call.written = op.written)
    (hl : call.logged? = op.logged?) (hv : call.told? = none) :
    Mirrors thread [op] [call] where
  output := by
    unfold Script.written
    rw [List.flatMap_singleton, List.flatMap_singleton, hw]
  messages := by rw [List.filterMap_cons, List.filterMap_cons, hl]; rfl
  tagged := fun _ hm => List.mem_singleton.mp hm ▸ ht
  noVariable := fun _ hm => List.mem_singleton.mp hm ▸ hv

/-- No call, if an operation writes and logs nothing. -/
theorem Mirrors.none {op : Operation} (thread : Int32) (hw : op.written = [])
    (hl : op.logged? = Option.none) : Mirrors thread [op] [] where
  output := by
    unfold Script.written
    rw [List.flatMap_singleton, hw]
    rfl
  messages := by
    rw [List.filterMap_cons_none hl]
    rfl
  tagged := fun _ hm => (List.not_mem_nil hm).elim
  noVariable := fun _ hm => (List.not_mem_nil hm).elim

theorem Operation.mirrors_calls (thread : Int32) (hasBody : Bool) (status : Nat)
    (block : List Char) (op : Operation) :
    Mirrors thread [op] (op.calls thread hasBody status block) := by
  cases op with
  | write data =>
    simp only [Operation.calls]
    split
    · next he => exact .none thread (List.isEmpty_iff.mp he) rfl
    · exact .one rfl rfl rfl rfl
  | readBody size =>
    simp only [Operation.calls]
    split
    · exact .none thread rfl rfl
    · split
      · exact .none thread rfl rfl
      · exact .one rfl rfl rfl rfl
  | sendHeaders => exact .one rfl rfl rfl rfl
  | readCookies => exact .one rfl rfl rfl rfl
  | log message priority => exact .one rfl rfl rfl rfl
  | _ => exact .none thread rfl rfl

/-- **The calls of a script bring what it writes and logs.** -/
theorem mirrors_callsOf (thread : Int32) (hasBody : Bool) (ops : List Operation) (status : Nat)
    (block : List Char) : Mirrors thread ops (callsOf thread hasBody status block ops) := by
  induction ops generalizing status block with
  | nil => exact .nil thread
  | cons op ops ih => exact (op.mirrors_calls thread hasBody status block).append (ih _ _)

end ScriptGateway.Script
