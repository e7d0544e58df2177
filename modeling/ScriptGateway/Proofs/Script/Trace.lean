import ScriptGateway.Script.Program
import ScriptGateway.Script.Request
/-!
# What a script did

What a script leaves in its context can be told from the operations it carried out, without the
order in which the context was edited: the output is all that was written, the status is the last
one that was set, and the header block is that of the header operations.

* `Program.trace`: the operations that a program carries out, each chosen by the answers so far.
* `Operation.written`, `Operation.status?`, `Operation.edit`: what one operation does.
* `written`, `lastStatus?`, `headerBlock`: what a list of operations does.
* `Program.run_context`: what a program leaves in its context.
* `Session.thread_perform`, `Program.thread_run`: a script keeps the thread it was given.
-/

namespace ScriptGateway.Script

/-! ## 1. One operation -/

/-- Whether a number is a status of HTTP. -/
def isHttpStatus (status : Nat) : Bool :=
  decide (100 ≤ status ∧ status < 600)

/-- A header line without the line ends at its end. -/
def trimLine (line : String) : List Char :=
  Text.dropEndWhile (fun ch => ch == '\r' || ch == '\n') line.toList

/-- The status that a header line sets, if it is a status line with one. -/
def lineStatus? (line : String) : Option Nat :=
  if HeaderBlock.isStatusLine (trimLine line) then
    (HeaderBlock.statusOf? (trimLine line)).filter isHttpStatus
  else none

/-- The block with a header line added, unless the line is empty or sets the status. -/
def addText (block : List Char) (line : String) : List Char :=
  if (trimLine line).isEmpty || HeaderBlock.isStatusLine (trimLine line) then block
  else HeaderBlock.addLine block (trimLine line)

/-- The block with a header line in place of the lines of the same name. -/
def replaceText (block : List Char) (line : String) : List Char :=
  match Text.splitOnce ':' line.toList with
  | some (name, _) =>
    if HeaderBlock.isStatusLine line.toList then addText block line
    else addText (HeaderBlock.removeNamed name block) line
  | none => addText block line

namespace Operation

/-- The bytes that an operation writes. -/
def written : Operation → Bytes
  | write data => data
  | _ => []

/-- The status that an operation sets. -/
def status? : Operation → Option Nat
  | setStatus status => if isHttpStatus status then some status else none
  | addHeader line => lineStatus? line
  | replaceHeader line => lineStatus? line
  | _ => none

/-- What an operation does to the header block. -/
def edit (block : List Char) : Operation → List Char
  | addHeader line => addText block line
  | replaceHeader line => replaceText block line
  | removeHeader name => HeaderBlock.removeNamed name.toList block
  | clearHeaders => []
  | _ => block

end Operation

namespace Context

theorem setStatus_eq (c : Context) (status : Nat) :
    c.setStatus status =
      { c with status := (if isHttpStatus status then some status else none).getD c.status } := by
  unfold setStatus isHttpStatus
  by_cases h : 100 ≤ status ∧ status < 600
  · rw [if_pos h, decide_eq_true h, if_pos rfl]
    rfl
  · rw [if_neg h, decide_eq_false h, if_neg Bool.false_ne_true]
    rfl

theorem thread_setStatus (c : Context) (status : Nat) :
    (c.setStatus status).thread = c.thread := by rw [setStatus_eq]

/-- What a header line does: it sets the status, or it is added. -/
theorem addHeader_eq (c : Context) (line : String) :
    c.addHeader line =
      { c with status := (lineStatus? line).getD c.status, headers := addText c.headers line } := by
  unfold addHeader lineStatus? addText
  show (if (trimLine line).isEmpty = true then c
    else if HeaderBlock.isStatusLine (trimLine line) = true then _ else _) = _
  cases he : (trimLine line).isEmpty with
  | true =>
    rw [List.isEmpty_iff.mp he]
    rfl
  | false =>
    cases hs : HeaderBlock.isStatusLine (trimLine line) with
    | false => rfl
    | true =>
      rw [if_neg Bool.false_ne_true, if_pos rfl, if_pos rfl]
      split
      · next status ho =>
        rw [setStatus_eq, show HeaderBlock.statusOf? (trimLine line) = some status from ho]
        rfl
      · next ho =>
        rw [show HeaderBlock.statusOf? (trimLine line) = none from ho]
        rfl

theorem thread_addHeader (c : Context) (line : String) :
    (c.addHeader line).thread = c.thread := by rw [addHeader_eq]

theorem replaceHeader_eq (c : Context) (line : String) :
    c.replaceHeader line =
      { c with
        status := (lineStatus? line).getD c.status
        headers := replaceText c.headers line } := by
  unfold replaceHeader replaceText
  cases Text.splitOnce ':' line.toList with
  | none => exact c.addHeader_eq line
  | some pair =>
    cases HeaderBlock.isStatusLine line.toList with
    | true => exact c.addHeader_eq line
    | false =>
      show (c.removeHeader (String.ofList pair.1)).addHeader line = _
      rw [addHeader_eq, removeHeader, String.toList_ofList]
      rfl

theorem thread_replaceHeader (c : Context) (line : String) :
    (c.replaceHeader line).thread = c.thread := by rw [replaceHeader_eq]

end Context

/-- **What one operation does to a context**, as far as the response and the host depend on it. -/
structure Did (op : Operation) (c c' : Context) : Prop where
  output : c'.output = c.output ++ op.written
  status : c'.status = op.status?.getD c.status
  headers : c'.headers = op.edit c.headers
  hasBody : c'.body.isPresent = c.body.isPresent
  thread : c'.thread = c.thread

/-- Reading leaves the body what it is, only read further. -/
theorem Body.content_read (b : Body) (size : Nat) : (b.read size).2.content = b.content := by
  unfold Body.read Body.content
  rw [List.append_assoc, List.take_append_drop]

theorem Body.isPresent_read (b : Body) (size : Nat) :
    (b.read size).2.isPresent = b.isPresent := by
  unfold Body.isPresent
  rw [b.content_read]

variable {σ : Type}

theorem Session.did_perform (h : Host σ) (op : Operation) (s : Session σ) :
    Did op s.context (Session.perform h op s).2.context := by
  have nothing (hw : op.written = []) (hs : op.status? = none)
      (he : op.edit s.context.headers = s.context.headers) : Did op s.context s.context :=
    ⟨by rw [hw, List.append_nil], by rw [hs]; rfl, he.symm, rfl, rfl⟩
  cases op with
  | write data =>
    simp only [Session.perform, Session.write]
    split
    · next he =>
      rw [List.isEmpty_iff.mp he]
      exact ⟨(List.append_nil _).symm, rfl, rfl, rfl, rfl⟩
    · exact ⟨rfl, rfl, rfl, rfl, rfl⟩
  | setStatus status =>
    show Did _ s.context (s.context.setStatus status)
    rw [Context.setStatus_eq]
    exact ⟨(List.append_nil _).symm, rfl, rfl, rfl, rfl⟩
  | addHeader line =>
    show Did _ s.context (s.context.addHeader line)
    rw [Context.addHeader_eq]
    exact ⟨(List.append_nil _).symm, rfl, rfl, rfl, rfl⟩
  | replaceHeader line =>
    show Did _ s.context (s.context.replaceHeader line)
    rw [Context.replaceHeader_eq]
    exact ⟨(List.append_nil _).symm, rfl, rfl, rfl, rfl⟩
  | removeHeader name => exact ⟨(List.append_nil _).symm, rfl, rfl, rfl, rfl⟩
  | clearHeaders => exact ⟨(List.append_nil _).symm, rfl, rfl, rfl, rfl⟩
  | readBody size =>
    simp only [Session.perform, Session.readBody]
    split
    · exact nothing rfl rfl rfl
    · split
      · exact ⟨(List.append_nil _).symm, rfl, rfl, s.context.body.isPresent_read size, rfl⟩
      · exact nothing rfl rfl rfl
  | sendHeaders => exact nothing rfl rfl rfl
  | readCookies => exact nothing rfl rfl rfl
  | log message priority => exact nothing rfl rfl rfl
  | look => exact nothing rfl rfl rfl

/-! ## 2. All operations of a script -/

/-- The operations that a program carries out, in order. -/
def Program.trace (h : Host σ) : Program → Session σ → List Operation
  | done, _ => []
  | fail _, _ => []
  | panic _, _ => []
  | ask op next, s =>
    op :: (next (Session.perform h op s).1).trace h (Session.perform h op s).2

/-- All that was written, in order. -/
def written (ops : List Operation) : Bytes :=
  ops.flatMap Operation.written

/-- The last status that was set. -/
def lastStatus? (ops : List Operation) : Option Nat :=
  (ops.filterMap Operation.status?).getLast?

/-- What the operations make of a header block. -/
def headerBlock (block : List Char) (ops : List Operation) : List Char :=
  ops.foldl Operation.edit block

/-- A status set first counts if none is set later. -/
theorem lastStatus?_cons (op : Operation) (ops : List Operation) (status : Nat) :
    (lastStatus? (op :: ops)).getD status =
      (lastStatus? ops).getD (op.status?.getD status) := by
  unfold lastStatus?
  cases e : op.status? with
  | none => rw [List.filterMap_cons_none e]; rfl
  | some code =>
    rw [List.filterMap_cons_some e, List.getLast?_cons]
    rfl

/-- **Only statuses of HTTP are set.** -/
theorem Operation.isHttpStatus_of_status? {op : Operation} {status : Nat}
    (h : op.status? = some status) : isHttpStatus status = true := by
  have ofLine {line : String} (h : lineStatus? line = some status) :
      isHttpStatus status = true := by
    unfold lineStatus? at h
    split at h
    · exact (Option.filter_eq_some_iff.mp h).2
    · cases h
  cases op with
  | setStatus code =>
    change (if isHttpStatus code then some code else none) = some status at h
    split at h
    · next set => exact Option.some.inj h ▸ set
    · cases h
  | addHeader line => exact ofLine h
  | replaceHeader line => exact ofLine h
  | _ => cases h

/-- So a script that began with a status ends with one. -/
theorem lastStatus?_getD_ne_zero (ops : List Operation) {status : Nat} (h : status ≠ 0) :
    (lastStatus? ops).getD status ≠ 0 := by
  cases last : lastStatus? ops with
  | none => exact h
  | some code =>
    obtain ⟨op, -, set⟩ := List.mem_filterMap.mp (List.mem_of_getLast? last)
    rintro rfl
    exact absurd (Operation.isHttpStatus_of_status? set) (by decide)

/-- **What a script leaves in its context.** -/
structure Left (ops : List Operation) (c c' : Context) : Prop where
  output : c'.output = c.output ++ written ops
  status : c'.status = (lastStatus? ops).getD c.status
  headers : c'.headers = headerBlock c.headers ops
  thread : c'.thread = c.thread

theorem Left.nil (c : Context) : Left [] c c :=
  ⟨(List.append_nil _).symm, rfl, rfl, rfl⟩

theorem Left.cons {op : Operation} {ops : List Operation} {c c' c'' : Context} (h : Did op c c')
    (h' : Left ops c' c'') : Left (op :: ops) c c'' where
  output := by
    rw [h'.output, h.output, List.append_assoc]
    rfl
  status := by rw [h'.status, h.status, lastStatus?_cons]
  headers := by
    rw [h'.headers, h.headers]
    rfl
  thread := h'.thread.trans h.thread

theorem Program.run_context (h : Host σ) (p : Program) (s : Session σ) :
    Left (p.trace h s) s.context (p.run h s).2.context := by
  induction p generalizing s with
  | done => exact .nil _
  | fail message => exact .nil _
  | panic message => exact .nil _
  | ask op next ih => exact .cons (Session.did_perform h op s) (ih _ _)

/-! ## 3. The thread -/

@[simp] theorem Context.thread_resetOutput (c : Context) : c.resetOutput.thread = c.thread := rfl

/-- **No operation changes the thread.** -/
theorem Session.thread_perform (h : Host σ) (op : Operation) (s : Session σ) :
    (Session.perform h op s).2.context.thread = s.context.thread :=
  (Session.did_perform h op s).thread

theorem Program.thread_run (h : Host σ) (p : Program) (s : Session σ) :
    (p.run h s).2.context.thread = s.context.thread :=
  (p.run_context h s).thread

theorem thread_addVariables (vars : List Variable) (c : Context) :
    (vars.foldl (fun c (name, value) => c.addVariable name value) c).thread = c.thread := by
  induction vars generalizing c with
  | nil => rfl
  | cons v vars ih => exact ih (c.addVariable v.1 v.2)

/-- The context for a request has the thread it is made for. -/
theorem Request.thread_context (r : Request) (thread : Int32) :
    (r.context thread).thread = thread :=
  thread_addVariables r.vars _

end ScriptGateway.Script
