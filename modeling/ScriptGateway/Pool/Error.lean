import ScriptGateway.Time.Duration
/-!
# Pool errors

Why a job gave no result: it was not accepted, it took too long, or it panicked.
-/

namespace ScriptGateway.Pool

/-- An error of the pool. -/
inductive Error where
  | queueFull (capacity pending : Nat)
  | timeout (limit : Duration)
  | workerPanic (message : String)
  | shutdown
  | channelClosed
  | spawn (message : String)
  deriving DecidableEq, Repr

namespace Error

/-- Whether the queue had no place. -/
def isQueueFull : Error → Bool
  | queueFull _ _ => true
  | _ => false

/-- Whether the caller gave up waiting. -/
def isTimeout : Error → Bool
  | timeout _ => true
  | _ => false

/-- Whether the pool takes no more jobs. -/
def isShutdown : Error → Bool
  | shutdown => true
  | _ => false

/-- The wording of a pool error. -/
def message : Error → String
  | queueFull capacity pending =>
    "queue full: " ++ toString pending ++ "/" ++ toString capacity ++ " pending requests"
  | timeout limit => "request timeout after " ++ limit.toText
  | workerPanic message => "worker panic: " ++ message
  | shutdown => "pool has been shut down"
  | channelClosed => "response channel closed unexpectedly"
  | spawn message => "failed to spawn worker thread: " ++ message

/-- The kind of a pool error in words. -/
def short : Error → String
  | queueFull _ _ => "Queue full"
  | timeout _ => "Request timeout"
  | workerPanic _ => "Worker panic"
  | shutdown => "Pool shutdown"
  | channelClosed => "Channel closed"
  | spawn _ => "Worker spawn failed"

end Error

/-- What is said of a panic whose payload is not a text. -/
def unknownPanic : String := "unknown panic"

end ScriptGateway.Pool
