import ScriptGateway.Engine.Lifecycle
/-!
# Starts and stops side by side

Any number of operators start and stop one engine. An operator takes the engine's lock before it
looks whether the engine is started, and keeps it until it has its result. Meanwhile files change,
others use the same extensions, and scripts begin and end. Dropping the engine stops it for the
last time, when nobody else uses it any more.

* `Operator.advance?` carries out one step of an operator that holds the lock.
* `Operators.step?` carries out one step of anybody; `Operators.Reachable` is what any order of
  steps leads to.
-/

namespace ScriptGateway.Engine

/-! ## 1. One operator -/

/-- What an operator wants of the engine. -/
inductive Wish where
  | start
  | stop
  deriving DecidableEq, Repr

/-- Where an operator stands. -/
inductive Stage where
  /-- It came in and does not have the lock. -/
  | arrived
  /-- It has the lock and is about to look whether the engine is started. -/
  | entered
  /-- It is about to start the interpreter. -/
  | starting
  /-- The interpreter is up, and these required extensions are still to be loaded. -/
  | requiring (names : List String)
  /-- The required extensions are loaded, and these optional ones are still to be tried. -/
  | offering (names : List String)
  /-- A required extension failed, and the interpreter is about to be stopped. -/
  | retreating (cause : ExtensionError)
  /-- It is about to mark the engine as started. -/
  | marking
  /-- The engine is no longer marked, and its extensions are about to be forgotten. -/
  | forgetting
  /-- It is about to stop the interpreter. -/
  | halting
  /-- It has its result, and the lock still. -/
  | leaving (failure : Option Error)
  | ended (failure : Option Error)
  deriving DecidableEq, Repr

namespace Stage

/-- Whether an operator has its result and no lock. -/
def isEnded : Stage → Bool
  | ended _ => true
  | _ => false

end Stage

/-- One who starts or stops the engine. -/
structure Operator where
  wish : Wish
  stage : Stage
  deriving DecidableEq, Repr

/-- What the interpreter was asked, and what it answered if it was to start. -/
inductive Happening where
  | cameUp
  | failed (message : String)
  | stopped
  deriving DecidableEq, Repr

/-- The call that was made on the interpreter. -/
def Happening.call (version : String) : Happening → InterpreterCall
  | cameUp => .startup version
  | failed _ => .startup version
  | stopped => .shutdown

namespace Operator

/-- What a step of an operator leaves behind. -/
structure Turn where
  engine : Engine
  stage : Stage
  happened : List Happening

/-- Where an operator goes on once the interpreter came up. -/
def afterStart (e : Engine) : Stage :=
  match e.extensions with
  | none => .marking
  | some extensions => .requiring extensions.required

/-- The operator looks whether there is anything to do. A stop takes the mark away at once. -/
def look (e : Engine) : Wish → Turn
  | .start =>
    let stage := if e.started then .leaving none
      else match e.bridge.backend with
        | .fallback => .marking
        | .interpreter _ => .starting
    { engine := e, stage, happened := [] }
  | .stop =>
    if e.started then
      { engine := { e with started := false }, stage := .forgetting, happened := [] }
    else { engine := e, stage := .leaving none, happened := [] }

/-- The next step of an operator that has the lock; `answer` is what the interpreter answers if
this step starts it. -/
def advance? (tree : Files.Tree) (answer : Except String Unit) (e : Engine) (wish : Wish) :
    Stage → Option Turn
  | .arrived | .leaving _ | .ended _ => none
  | .entered => some (look e wish)
  | .starting =>
    match answer with
    | .error message =>
      some
        { engine := e, stage := .leaving (some (.startup message)), happened := [.failed message] }
    | .ok () => some { engine := e, stage := afterStart e, happened := [.cameUp] }
  | .requiring (name :: names) =>
    e.extensions.map fun extensions =>
      match extensions.load? tree name with
      | .ok extensions =>
        { engine := { e with extensions := some extensions }, stage := .requiring names
          happened := [] }
      | .error cause => { engine := e, stage := .retreating cause, happened := [] }
  | .requiring [] =>
    e.extensions.map fun extensions =>
      { engine := e, stage := .offering extensions.optional, happened := [] }
  | .offering (name :: names) =>
    e.extensions.map fun extensions =>
      match extensions.load? tree name with
      | .ok extensions =>
        { engine := { e with extensions := some extensions }, stage := .offering names
          happened := [] }
      | .error _ => { engine := e, stage := .offering names, happened := [] }
  | .offering [] => some { engine := e, stage := .marking, happened := [] }
  | .retreating cause =>
    some { engine := e, stage := .leaving (some (.extension cause)), happened := [.stopped] }
  | .marking =>
    some { engine := { e with started := true }, stage := .leaving none, happened := [] }
  | .forgetting =>
    let stage := match e.bridge.backend with
      | .fallback => .leaving none
      | .interpreter _ => .halting
    some
      { engine := { e with extensions := e.extensions.map Extensions.unloadAll }
        stage
        happened := [] }
  | .halting => some { engine := e, stage := .leaving none, happened := [.stopped] }

end Operator

/-! ## 2. Many operators -/

/-- An engine, the files around it, and those who started or stopped it so far. -/
structure Operators where
  engine : Engine
  tree : Files.Tree
  /-- The operator that has the lock. -/
  holder : Option Nat
  operators : List Operator
  /-- Whether the engine is being dropped; nobody can come any more. -/
  dropped : Bool
  /-- All that happened to the interpreter, in order. No step reads it. -/
  record : List Happening

namespace Operators

/-- A step of an operator, or of the world around the engine. -/
inductive Action where
  /-- An operator comes in. -/
  | arrive (wish : Wish)
  /-- The engine is dropped. -/
  | drop
  /-- An operator takes its next step; the interpreter answers so if that step starts it. -/
  | advance (index : Nat) (answer : Except String Unit)
  /-- The files change. -/
  | files (tree : Files.Tree)
  /-- Someone else loads or forgets extensions, and these are loaded now. -/
  | others (loaded : List String)
  /-- Scripts begin or end, and these threads are active now. -/
  | scripts (active : Activation)

/-- An engine that was never started. -/
def new (version : String) (backend : Backend) (extensions : Option Extensions)
    (tree : Files.Tree) : Operators :=
  { engine := { version, bridge := .ofBackend backend, extensions, started := false }
    tree, holder := none, operators := [], dropped := false, record := [] }

/-- One more operator. -/
def enlist (m : Operators) (wish : Wish) : Operators :=
  { m with operators := m.operators ++ [{ wish, stage := .arrived }] }

/-- The state after a step of an operator that has the lock. -/
def took (m : Operators) (index : Nat) (wish : Wish) (turn : Operator.Turn) : Operators :=
  { m with
    engine := turn.engine
    operators := m.operators.set index { wish, stage := turn.stage }
    record := m.record ++ turn.happened }

/-- The next step of one operator. It takes the lock if nobody has it, and gives it back with its
result. -/
def operate? (m : Operators) (index : Nat) (answer : Except String Unit) (o : Operator) :
    Option Operators :=
  match o.stage with
  | .arrived =>
    if m.holder = none then
      some { m with
        holder := some index, operators := m.operators.set index { o with stage := .entered } }
    else none
  | .leaving failure =>
    some { m with
      holder := none, operators := m.operators.set index { o with stage := .ended failure } }
  | stage => (Operator.advance? m.tree answer m.engine o.wish stage).map (m.took index o.wish)

/-- Carries out a step, if it can be taken now. -/
def step? (m : Operators) : Action → Option Operators
  | .arrive wish => if m.dropped then none else some (m.enlist wish)
  | .drop =>
    if !m.dropped && m.operators.all (·.stage.isEnded) then
      some { m.enlist .stop with dropped := true }
    else none
  | .advance index answer => m.operators[index]?.bind (m.operate? index answer)
  | .files tree => some { m with tree }
  | .others loaded =>
    some { m with
      engine := { m.engine with extensions := m.engine.extensions.map fun x => { x with loaded } } }
  | .scripts active =>
    some { m with engine := { m.engine with bridge := { m.engine.bridge with active } } }

/-- The states that any order of steps leads to. -/
inductive Reachable (first : Operators) : Operators → Prop where
  | start : Reachable first first
  | step {m m' : Operators} (hr : Reachable first m) (a : Action) (hs : m.step? a = some m') :
      Reachable first m'

end Operators

end ScriptGateway.Engine
