import ScriptGateway.Engine.Error
import ScriptGateway.Pool.Error
/-!
# Executor errors

A request fails in the pool, before or instead of a result, or in the engine.
-/

namespace ScriptGateway.Executor

/-- An error of the executor. -/
inductive Error where
  | pool (e : Pool.Error)
  | engine (e : Engine.Error)
  deriving DecidableEq, Repr

namespace Error

/-- Whether the queue had no place. -/
def isQueueFull : Error → Bool
  | pool e => e.isQueueFull
  | engine _ => false

/-- Whether the caller gave up waiting. -/
def isTimeout : Error → Bool
  | pool e => e.isTimeout
  | engine _ => false

/-- Whether the pool takes no more jobs. -/
def isShutdown : Error → Bool
  | pool e => e.isShutdown
  | engine _ => false

/-- The wording of an executor error. -/
def message : Error → String
  | pool e => e.message
  | engine e => e.message

/-- The wordings of what caused the error, outermost first. -/
def causes : Error → List String
  | pool e => [e.message]
  | engine e => e.message :: e.causes

end Error

end ScriptGateway.Executor
