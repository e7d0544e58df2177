import ScriptGateway.Log.Event
import ScriptGateway.Text.Utf8
/-!
# Hosts

All that an execution tells the outside, or asks of it, goes through six operations of a
host, each with the thread index it is meant for. A host is these operations over some state
of its own.
-/

namespace ScriptGateway.Script

/-- The priority that an interpreter gives a message, as in system logs. -/
structure Priority where
  code : Int32
  deriving DecidableEq, Repr

namespace Priority

/-- The priority of errors. -/
def error : Priority := ⟨3⟩

/-- The level of a priority: 0 to 3 are errors, 4 is a warning, 5 and 6 are information. -/
def level (p : Priority) : Log.Level :=
  let code := p.code.toInt
  if 0 ≤ code ∧ code ≤ 3 then .error
  else if code = 4 then .warn
  else if code = 5 ∨ code = 6 then .info
  else .debug

end Priority

/-- The six operations of a host with state `σ`. -/
structure Host (σ : Type) where
  /-- Takes output; answers how many bytes were accepted. -/
  writeOutput : Int32 → Bytes → σ → Nat × σ
  /-- Takes status and header block; answers whether they were delivered. -/
  sendHeaders : Int32 → Nat → Bytes → σ → Bool × σ
  /-- Hands out at most so many bytes of a body that the context does not hold. -/
  readBody : Int32 → Nat → σ → Bytes × σ
  /-- The cookies of the request. -/
  readCookies : Int32 → σ → Option String × σ
  /-- Takes note of a variable. -/
  registerVariable : Int32 → String → String → σ → σ
  /-- Takes a message. -/
  logMessage : Int32 → String → Priority → σ → σ

/-- The host that accepts everything and has nothing to say. -/
def Host.silent : Host Unit where
  writeOutput _ data s := (data.length, s)
  sendHeaders _ _ _ s := (true, s)
  readBody _ _ s := ([], s)
  readCookies _ s := (none, s)
  registerVariable _ _ _ s := s
  logMessage _ _ _ s := s

end ScriptGateway.Script
