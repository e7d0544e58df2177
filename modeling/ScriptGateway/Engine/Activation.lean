import ScriptGateway.Engine.Error
/-!
# Active threads

Which thread indices execute a script, and which script. An index is bound when an execution
begins and released when it ends; in between no other execution can bind it.

* `Activation.bindings` is sorted by thread index.
-/

namespace ScriptGateway.Engine

/-- The threads that execute a script, in the order of their indices. -/
structure Activation where
  bindings : List (Int32 × String)
  deriving DecidableEq, Repr

namespace Activation

/-- No thread executes anything. -/
def none : Activation :=
  ⟨[]⟩

/-- The script that a thread executes. -/
def script? (a : Activation) (thread : Int32) : Option String :=
  a.bindings.lookup thread

/-- Whether a thread executes a script. -/
def isActive (a : Activation) (thread : Int32) : Bool :=
  (a.script? thread).isSome

/-- How many threads execute a script. -/
def count (a : Activation) : Nat :=
  a.bindings.length

/-- Puts a binding before those of higher indices. -/
def insert (thread : Int32) (script : String) :
    List (Int32 × String) → List (Int32 × String)
  | [] => [(thread, script)]
  | (other, s) :: rest =>
    if thread < other then (thread, script) :: (other, s) :: rest
    else (other, s) :: insert thread script rest

/-- Binds a thread to a script, unless it is bound. -/
def bind? (a : Activation) (thread : Int32) (script : String) : Except Error Activation :=
  if a.isActive thread then .error (.threadBusy thread)
  else .ok ⟨insert thread script a.bindings⟩

/-- Releases a thread. -/
def release (a : Activation) (thread : Int32) : Activation :=
  ⟨a.bindings.filter (·.1 ≠ thread)⟩

end Activation

end ScriptGateway.Engine
