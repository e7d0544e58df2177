import ScriptGateway.Script.Context
/-!
# Requests to run a script

Everything a worker needs to build a context.
-/

namespace ScriptGateway.Script

/-- What to run, and on what. -/
structure Request where
  script : String
  documentRoot : Option String
  /-- The script's file, if it is known. -/
  scriptPath : Option String
  vars : List Variable
  body : Option Bytes
  cookies : Option String
  deriving DecidableEq, Repr

/-- The context for a request on a worker. -/
def Request.context (r : Request) (thread : Int32) : Context :=
  let c : Context :=
    { Context.new with thread, documentRoot := r.documentRoot, scriptPath := r.scriptPath }
  let c := r.vars.foldl (fun c (name, value) => c.addVariable name value) c
  c.setBody (r.body.getD [])

end ScriptGateway.Script
