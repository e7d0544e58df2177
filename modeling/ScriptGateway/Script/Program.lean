import ScriptGateway.Script.Session
/-!
# Programs of session operations

An interpreter that runs a script behaves as a finite program of session operations, each
chosen by the answers so far. It ends well, with an error message, or in a panic.
-/

namespace ScriptGateway.Script

/-- What an interpreter does with a script. -/
inductive Program where
  | done
  | fail (message : String)
  | panic (message : String)
  | ask (op : Operation) (next : op.Answer → Program)

/-- How a program ended. -/
inductive Ending where
  | done
  | failed (message : String)
  | panicked (message : String)
  deriving DecidableEq, Repr

/-- An interpreter: what it does with each script. The first operation is usually to look. -/
abbrev Interpreter := String → Program

namespace Program

/-- Carries a program out to its end. -/
def run {σ : Type} (h : Host σ) : Program → Session σ → Ending × Session σ
  | done, s => (.done, s)
  | fail message, s => (.failed message, s)
  | panic message, s => (.panicked message, s)
  | ask op next, s =>
    let (answer, s) := Session.perform h op s
    (next answer).run h s

end Program

end ScriptGateway.Script
