import Mathlib.Data.List.Basic
import ScriptGateway.Config.Gateway
import ScriptGateway.Proofs.Config.TimeSpan
/-!
# Which variable is at fault, and which one decides what

Seven variables can hold a value that their reader does not accept. They are read in a fixed order,
so that the first of them that is at fault gives the error. The fields of a configuration that was
loaded do not interfere: each is read from a variable of its own, but for two that have two.

* `Checked`, `Checked.Accepts`, `Checked.fault?`: the variables that can be at fault, which values
  they accept, and the error for any other.
* `Checks`, `checks_bind`, `checks_gateway`: readings that fail at the first variable with a fault.
* `Field`, `Field.keys`: the fields, and the variables each is derived from.
* `Field.read_congr`, `read_of_loaded`: a field is read from its variables alone.
* `variables_separate`: all of it, for every environment.
-/

namespace ScriptGateway.Config

/-! ## 1. Values at fault -/

/-- The error of a reading that failed. -/
def failure? {ε α : Type} : Except ε α → Option ε
  | .ok _ => none
  | .error e => some e

theorem failure?_eq_some_iff {ε α : Type} {r : Except ε α} {e : ε} :
    failure? r = some e ↔ r = .error e := by
  cases r <;> simp [failure?]

theorem failure?_eq_none_iff {ε α : Type} {r : Except ε α} :
    failure? r = none ↔ ∃ a, r = .ok a := by
  cases r <;> simp [failure?]

/-- The variables whose value can be at fault. -/
inductive Checked where
  | listen
  | drain
  | mode
  | workers
  | capacity
  | timeout
  | format
  deriving DecidableEq

namespace Checked

/-- The variables in the order in which they are read. -/
def inOrder : List Checked :=
  [listen, drain, mode, workers, capacity, timeout, format]

theorem mem_inOrder (u : Checked) : u ∈ inOrder := by
  cases u <;> decide

def key : Checked → String
  | listen => "LISTEN_ADDR"
  | drain => "DRAIN_TIMEOUT"
  | mode => "ENGINE_MODE"
  | workers => "PHP_WORKERS"
  | capacity => "QUEUE_CAPACITY"
  | timeout => "REQUEST_TIMEOUT"
  | format => "LOG_FORMAT"

/-- The values that a variable accepts. The mode `full` is none: there is no interpreter. -/
def Accepts (u : Checked) (v : String) : Prop :=
  match u with
  | listen => ∃ address, Net.SocketAddress.read? (Text.trim v) = some address
  | drain | timeout =>
    IsOff (normal v) ∨ ∃ n unit, Spells (normal v) n unit ∧ n < 2 ^ 64
  | mode => String.ofList (normal v) ∈ ["", "auto", "fallback"]
  | workers | capacity => v = "" ∨ ∃ n, IsNumeral (Text.trimChars v.toList) n ∧ n < 2 ^ 64
  | format => String.ofList (normal v) ∈ ["", "json", "text", "pretty"]

/-- The error for a value that a variable does not accept. -/
def fault? (u : Checked) (v : String) : Option Error :=
  match u with
  | listen =>
    if (Net.SocketAddress.read? (Text.trim v)).isSome then none
    else some (.unreadable u.key v .address)
  | drain | timeout =>
    (failure? (readTimeSpan v)).map fun e => .unreadable u.key v (.timeSpan e)
  | mode =>
    let word := String.ofList (normal v)
    if word ∈ ["", "auto", "fallback"] then none
    else if word = "full" then some (.rejected u.key .noInterpreter)
    else some (.rejected u.key (.unknownMode word))
  | workers | capacity =>
    if v = "" then none
    else (failure? (Decimal.readBelow Decimal.wordLimit (Text.trimChars v.toList))).map fun e =>
      .unreadable u.key v (.number e)
  | format =>
    let word := String.ofList (normal v)
    if word ∈ ["", "json", "text", "pretty"] then none
    else some (.rejected u.key (.unknownFormat word))

end Checked

theorem readTimeSpan_accepts {v : String} :
    failure? (readTimeSpan v) = none ↔
      IsOff (normal v) ∨ ∃ n unit, Spells (normal v) n unit ∧ n < 2 ^ 64 := by
  rw [failure?_eq_none_iff]
  by_cases off : IsOff (normal v)
  · exact iff_of_true ⟨none, readNormalTimeSpan_of_isOff off⟩ (.inl off)
  · rcases readNormalTimeSpan_of_not_isOff off with
      ⟨n, unit, below, spells, read⟩ | ⟨⟨e, read⟩, none⟩
    · exact iff_of_true ⟨_, read⟩ (.inr ⟨n, unit, spells, below⟩)
    · refine iff_of_false ?_ ?_
      · intro ⟨d, accepted⟩
        have same : readTimeSpan v = .error e := read
        rw [same] at accepted
        cases accepted
      · intro h
        rcases h with h | ⟨n, unit, spells, below⟩
        · exact off h
        · exact none n unit below spells

theorem readBelow_accepts {s : List Char} :
    failure? (Decimal.readBelow Decimal.wordLimit s) = none ↔ ∃ n, IsNumeral s n ∧ n < 2 ^ 64 := by
  have read (n : Nat) : Decimal.readBelow Decimal.wordLimit s = .ok n ↔
      IsNumeral s n ∧ n < 2 ^ 64 := by
    rw [← readBelow?_wordLimit, Decimal.readBelow?]
    cases Decimal.readBelow Decimal.wordLimit s <;> simp [Except.toOption]
  simp only [failure?_eq_none_iff, read]

/-- **There is an error just for the values that are not accepted.** -/
theorem Checked.fault?_eq_none_iff {u : Checked} {v : String} :
    u.fault? v = none ↔ u.Accepts v := by
  cases u with
  | listen => simp [fault?, Accepts, Option.isSome_iff_exists]
  | drain | timeout => simp [fault?, Accepts, readTimeSpan_accepts]
  | workers | capacity =>
    by_cases empty : v = "" <;> simp [fault?, Accepts, readBelow_accepts, empty]
  | mode | format =>
    simp only [fault?, Accepts]
    split_ifs <;> simp_all

instance (u : Checked) (v : String) : Decidable (u.Accepts v) :=
  decidable_of_iff _ Checked.fault?_eq_none_iff

/-- **Every error names the variable it is about.** -/
theorem Checked.key_of_fault? {u : Checked} {v : String} {e : Error} (h : u.fault? v = some e) :
    e.key = u.key := by
  cases u with
  | drain | timeout =>
    obtain ⟨cause, -, rfl⟩ := Option.map_eq_some_iff.mp h
    rfl
  | workers | capacity =>
    simp only [fault?] at h
    split_ifs at h
    obtain ⟨cause, -, rfl⟩ := Option.map_eq_some_iff.mp h
    rfl
  | listen | mode | format =>
    simp only [fault?] at h
    split_ifs at h
    all_goals
      obtain rfl := Option.some.inj h
      rfl

/-! ## 2. The first fault -/

/-- The error for the value that a variable has. -/
def Checked.at? (env : Environment) (u : Checked) : Option Error :=
  (env u.key).bind u.fault?

/-- A reading that fails just at the first of some variables with a fault. -/
def Checks {α : Type} (env : Environment) (us : List Checked) (r : Except Error α) : Prop :=
  failure? r = us.findSome? (Checked.at? env)

section Checks

variable {env : Environment}

theorem checks_pure {α : Type} (a : α) : Checks env [] (pure a : Except Error α) :=
  rfl

theorem checks_one {α : Type} {u : Checked} {r : Except Error α}
    (h : failure? r = (env u.key).bind u.fault?) : Checks env [u] r := by
  rw [Checks, h, List.findSome?_singleton]
  rfl

/-- What is read later is checked later, if it checks the same whatever was read before. -/
theorem checks_bind {α β : Type} {us us' : List Checked} {r : Except Error α}
    {f : α → Except Error β} (hr : Checks env us r) (hf : ∀ a, Checks env us' (f a)) :
    Checks env (us ++ us') (r >>= f) := by
  rw [Checks, List.findSome?_append, ← hr]
  cases r with
  | ok a => exact hf a
  | error e => rfl

/-- A variable that is unset is read as its default, which is not at fault. -/
theorem checks_getD {α : Type} {u : Checked} {default : String} {r : String → Except Error α}
    (hr : ∀ v, failure? (r v) = u.fault? v) (hd : u.fault? default = none) :
    Checks env [u] (r (env.getD u.key default)) := by
  refine checks_one ?_
  rw [hr, Environment.getD]
  cases env u.key with
  | none => exact hd
  | some v => rfl

theorem checks_listen : Checks env [.listen] (Server.readListen env) := by
  -- not by `checks_getD`: matching its reader would evaluate the address of an unknown text
  refine checks_one ?_
  unfold Server.readListen Environment.getD Checked.key
  cases env "LISTEN_ADDR" with
  | none => decide +kernel
  | some v =>
    simp only [Option.getD_some, Option.bind_some, Checked.fault?]
    cases Net.SocketAddress.read? (Text.trim v) <;> rfl

theorem failure?_span (u : Checked) (v : String) :
    failure? (match readTimeSpan v with
      | .ok d => .ok d
      | .error e => .error (.unreadable u.key v (.timeSpan e))) =
    (failure? (readTimeSpan v)).map fun e => Error.unreadable u.key v (.timeSpan e) := by
  cases readTimeSpan v <;> rfl

theorem checks_drain : Checks env [.drain] (env.span "DRAIN_TIMEOUT" "30s") :=
  checks_getD (u := .drain) (failure?_span .drain) (by decide +kernel)

theorem checks_timeout : Checks env [.timeout] (env.span "REQUEST_TIMEOUT" "2m") :=
  checks_getD (u := .timeout) (failure?_span .timeout) (by decide +kernel)

theorem checks_count {u : Checked} (n : Nat) (h : u = .workers ∨ u = .capacity) :
    Checks env [u] (env.count u.key n) := by
  have fault (v : String) : u.fault? v = if v = "" then none else
      (failure? (Decimal.readBelow Decimal.wordLimit (Text.trimChars v.toList))).map fun e =>
        .unreadable u.key v (.number e) := by
    rcases h with rfl | rfl <;> rfl
  refine checks_one ?_
  unfold Environment.count Environment.nonempty?
  cases env u.key with
  | none => rfl
  | some v =>
    rw [Option.bind_some, fault]
    by_cases empty : v = ""
    · simp [Option.filter_some, empty, failure?]
    · simp only [Option.filter_some, empty, ne_eq, not_false_eq_true, decide_true, if_true,
        if_false]
      cases Decimal.readBelow Decimal.wordLimit (Text.trimChars v.toList) <;> rfl

theorem checks_mode : Checks env [.mode]
    (ModeChoice.read (env.getD "ENGINE_MODE" "auto") >>= ModeChoice.resolve) := by
  refine checks_getD (u := .mode) (r := fun v => ModeChoice.read v >>= ModeChoice.resolve)
    (fun v => ?_) (by decide +kernel)
  unfold ModeChoice.read Checked.fault? normal
  generalize String.ofList (Text.lowerChars (Text.trimChars v.toList)) = word
  by_cases known : word ∈ ["", "auto", "full", "fallback"]
  · simp only [List.mem_cons, List.not_mem_nil, or_false] at known
    rcases known with rfl | rfl | rfl | rfl <;> rfl
  · simp only [List.mem_cons, List.not_mem_nil, or_false, not_or] at known
    simp only [known, failure?, List.mem_cons, List.not_mem_nil, decide_false, Bool.or_self,
      Bool.false_eq_true, if_false, or_self]
    rfl

theorem checks_format :
    Checks env [.format] (LogFormat.read (env.getD "LOG_FORMAT" "json")) := by
  refine checks_getD (u := .format) (fun v => ?_) (by decide +kernel)
  unfold LogFormat.read Checked.fault? normal
  generalize String.ofList (Text.lowerChars (Text.trimChars v.toList)) = word
  by_cases known : word ∈ ["", "json", "text", "pretty"]
  · simp only [List.mem_cons, List.not_mem_nil, or_false] at known
    rcases known with rfl | rfl | rfl | rfl <;> rfl
  · simp only [List.mem_cons, List.not_mem_nil, or_false, not_or] at known
    simp [known, failure?, Checked.key]

theorem checks_server : Checks env [.listen, .drain] (Server.ofEnvironment env) :=
  checks_bind checks_listen fun _ => checks_bind checks_drain fun _ => checks_pure _

theorem checks_engine : Checks env [.mode] (Engine.ofEnvironment env) := by
  unfold Engine.ofEnvironment
  -- the mode is read and then resolved; both check the same variable
  rw [← bind_assoc]
  exact checks_bind checks_mode fun _ => checks_pure _

theorem checks_executor (processors : Nat) :
    Checks env [.workers, .capacity, .timeout] (Executor.ofEnvironment processors env) :=
  checks_bind (checks_count 0 (.inl rfl)) fun _ => checks_bind (checks_count 0 (.inr rfl)) fun _ =>
    checks_bind checks_timeout fun _ => checks_pure _

theorem checks_logging : Checks env [.format] (Logging.ofEnvironment env) :=
  checks_bind checks_format fun _ => checks_pure _

/-- **A configuration checks its variables in their order.** -/
theorem checks_gateway (processors : Nat) :
    Checks env Checked.inOrder (Gateway.ofEnvironmentOn processors env) :=
  checks_bind checks_server fun _ => checks_bind checks_engine fun _ =>
    checks_bind (checks_executor processors) fun _ => checks_bind checks_logging fun _ =>
      checks_pure _

end Checks

/-! ## 3. Fields and their variables -/

/-- The fields of a configuration. -/
inductive Field where
  | listen
  | documentRoot
  | entryPoint
  | drainTimeout
  | staticCacheControl
  | mode
  | version
  | extensionDir
  | required
  | optional
  | workers
  | capacity
  | timeout
  | filter
  | format
  | service

namespace Field

def Value : Field → Type
  | listen => Net.SocketAddress
  | documentRoot | filter | service => String
  | entryPoint | staticCacheControl | version | extensionDir => Option String
  | drainTimeout => Duration
  | mode => ScriptGateway.Engine.Mode
  | required | optional => List String
  | workers | capacity => Nat
  | timeout => Option Duration
  | format => LogFormat

/-- The value of a field in a configuration. -/
def get (c : Gateway) : (f : Field) → f.Value
  | listen => c.server.listen
  | documentRoot => c.server.documentRoot
  | entryPoint => c.server.entryPoint
  | drainTimeout => c.server.drainTimeout
  | staticCacheControl => c.server.staticCacheControl
  | mode => c.engine.mode
  | version => c.engine.version
  | extensionDir => c.engine.extensionDir
  | required => c.engine.required
  | optional => c.engine.optional
  | workers => c.executor.workers
  | capacity => c.executor.capacity
  | timeout => c.executor.timeout
  | filter => c.logging.filter
  | format => c.logging.format
  | service => c.logging.service

/-- The variables that a field is derived from. -/
def keys : Field → List String
  | listen => ["LISTEN_ADDR"]
  | documentRoot => ["DOCUMENT_ROOT"]
  | entryPoint => ["ENTRY_POINT"]
  | drainTimeout => ["DRAIN_TIMEOUT"]
  | staticCacheControl => ["STATIC_CACHE_CONTROL"]
  | mode => ["ENGINE_MODE"]
  | version => ["PHP_VERSION"]
  | extensionDir => ["PHP_EXTENSION_DIR"]
  | required => ["PHP_EXTENSIONS"]
  | optional => ["PHP_EXTENSIONS_OPTIONAL"]
  | workers => ["PHP_WORKERS"]
  | capacity => ["PHP_WORKERS", "QUEUE_CAPACITY"]
  | timeout => ["REQUEST_TIMEOUT"]
  | filter => ["LOG_LEVEL", "RUST_LOG"]
  | format => ["LOG_FORMAT"]
  | service => ["SERVICE_NAME"]

/-- A field by itself, as it is read. -/
def read (processors : Nat) (env : Environment) : (f : Field) → Except Error f.Value
  | listen => Server.readListen env
  | documentRoot => .ok (env.getD "DOCUMENT_ROOT" "/var/www/html")
  | entryPoint => .ok (env.chosen? "ENTRY_POINT")
  | drainTimeout => (env.span "DRAIN_TIMEOUT" "30s").map (·.getD Server.defaultDrainTimeout)
  | staticCacheControl => .ok (env.nonempty? "STATIC_CACHE_CONTROL")
  | mode => ModeChoice.read (env.getD "ENGINE_MODE" "auto") >>= ModeChoice.resolve
  | version => .ok (env.chosen? "PHP_VERSION")
  | extensionDir => .ok (env.nonempty? "PHP_EXTENSION_DIR")
  | required => .ok (env.list "PHP_EXTENSIONS")
  | optional => .ok (env.list "PHP_EXTENSIONS_OPTIONAL")
  | workers => (env.count "PHP_WORKERS" 0).map (Executor.settleWorkers processors)
  | capacity => do
    let workers ← env.count "PHP_WORKERS" 0
    let capacity ← env.count "QUEUE_CAPACITY" 0
    return Executor.settleCapacity capacity (Executor.settleWorkers processors workers)
  | timeout => env.span "REQUEST_TIMEOUT" "2m"
  | filter => .ok (Logging.settleFilter (env "LOG_LEVEL") (env "RUST_LOG"))
  | format => LogFormat.read (env.getD "LOG_FORMAT" "json")
  | service => .ok (env.getD "SERVICE_NAME" "php_embed_bridge")

/-- **A field is read from its variables alone.** -/
theorem read_congr {processors : Nat} {env env' : Environment} {f : Field}
    (h : ∀ key ∈ f.keys, env key = env' key) :
    f.read processors env = f.read processors env' := by
  cases f with
  | listen =>
    have same : env "LISTEN_ADDR" = env' "LISTEN_ADDR" := h _ (List.mem_singleton.mpr rfl)
    unfold read Server.readListen Environment.getD
    rw [same]
  | _ =>
    simp only [keys, List.forall_mem_cons, List.not_mem_nil, IsEmpty.forall_iff, implies_true,
      and_true] at h
    simp only [read, Environment.span, Environment.chosen?, Environment.list, Environment.count,
      Environment.nonempty?, Environment.getD, h]
    try rfl

end Field

theorem bind_eq_ok {ε α β : Type} {x : Except ε α} {f : α → Except ε β} {b : β}
    (h : (x >>= f) = .ok b) : ∃ a, x = .ok a ∧ f a = .ok b := by
  cases x with
  | ok a => exact ⟨a, rfl, h⟩
  | error e => cases h

/-- **A configuration is loaded field by field.** -/
theorem read_of_loaded {processors : Nat} {env : Environment} {c : Gateway}
    (h : Gateway.ofEnvironmentOn processors env = .ok c) (f : Field) :
    f.read processors env = .ok (f.get c) := by
  obtain ⟨server, hs, h⟩ := bind_eq_ok h
  obtain ⟨engine, he, h⟩ := bind_eq_ok h
  obtain ⟨executor, hx, h⟩ := bind_eq_ok h
  obtain ⟨logging, hl, h⟩ := bind_eq_ok h
  obtain rfl := Except.ok.inj h
  obtain ⟨listen, listened, hs⟩ := bind_eq_ok hs
  obtain ⟨drain, drained, hs⟩ := bind_eq_ok hs
  obtain rfl := Except.ok.inj hs
  obtain ⟨choice, chosen, he⟩ := bind_eq_ok he
  obtain ⟨mode, resolved, he⟩ := bind_eq_ok he
  obtain rfl := Except.ok.inj he
  obtain ⟨workers, worked, hx⟩ := bind_eq_ok hx
  obtain ⟨capacity, queued, hx⟩ := bind_eq_ok hx
  obtain ⟨timeout, timed, hx⟩ := bind_eq_ok hx
  obtain rfl := Except.ok.inj hx
  obtain ⟨format, formatted, hl⟩ := bind_eq_ok hl
  obtain rfl := Except.ok.inj hl
  cases f with
  | listen => exact listened
  | drainTimeout => rw [Field.read, drained]; rfl
  | mode => rw [Field.read, chosen]; exact resolved
  | workers => rw [Field.read, worked]; rfl
  | capacity => rw [Field.read, worked, queued]; rfl
  | timeout => exact timed
  | format => exact formatted
  | documentRoot | entryPoint | staticCacheControl => rfl
  | version | extensionDir | required | optional => rfl
  | filter | service => rfl

/-- **The fields are all that a configuration holds.** -/
theorem eq_of_fields {c c' : Gateway} (h : ∀ f : Field, f.get c = f.get c') : c = c' := by
  obtain ⟨⟨_, _, _, _, _⟩, ⟨_, _, _, _, _⟩, ⟨_, _, _, _, _⟩, ⟨_, _, _⟩⟩ := c
  obtain ⟨⟨_, _, _, _, _⟩, ⟨_, _, _, _, _⟩, ⟨_, _, _, _, _⟩, ⟨_, _, _⟩⟩ := c'
  simp only [Gateway.mk.injEq, Server.mk.injEq, Engine.mk.injEq, Executor.mk.injEq,
    Logging.mk.injEq]
  exact ⟨⟨h .listen, h .documentRoot, h .entryPoint, h .drainTimeout, h .staticCacheControl⟩,
    ⟨h .mode, h .version, h .extensionDir, h .required, h .optional⟩,
    ⟨h .workers, h .capacity, h .timeout⟩, h .filter, h .format, h .service⟩

/-! ## 4. The result -/

/-- **What the variables of an environment bring about**, for so many processors. -/
structure Separate (processors : Nat) (env : Environment) : Prop where
  /-- Loading fails just if a variable has a value that it does not accept. -/
  fails : (∃ e, Gateway.ofEnvironmentOn processors env = .error e) ↔
    ∃ u : Checked, ∃ v, env u.key = some v ∧ ¬ u.Accepts v
  /-- The error is that of the first such variable, and names it. -/
  first : ∀ e, Gateway.ofEnvironmentOn processors env = .error e ↔
    ∃ before u after v, Checked.inOrder = before ++ u :: after ∧
      env u.key = some v ∧ u.fault? v = some e ∧ e.key = u.key ∧ ¬ u.Accepts v ∧
      ∀ u' ∈ before, ∀ v', env u'.key = some v' → u'.Accepts v'
  /-- A field of what is loaded depends on its own variables alone. -/
  fields : ∀ env' c c', Gateway.ofEnvironmentOn processors env = .ok c →
    Gateway.ofEnvironmentOn processors env' = .ok c' →
    ∀ f : Field, (∀ key ∈ f.keys, env key = env' key) → f.get c = f.get c'
  /-- What is loaded depends on nothing but the variables of its fields. -/
  whole : ∀ env' c c', Gateway.ofEnvironmentOn processors env = .ok c →
    Gateway.ofEnvironmentOn processors env' = .ok c' →
    (∀ f : Field, ∀ key ∈ f.keys, env key = env' key) → c = c'
  /-- There are workers, and the queue has room: a number that is zero stands for another. -/
  settled : ∀ c, Gateway.ofEnvironmentOn processors env = .ok c → ∃ workers capacity,
    env.count "PHP_WORKERS" 0 = .ok workers ∧ env.count "QUEUE_CAPACITY" 0 = .ok capacity ∧
    c.executor.workers = (if workers = 0 then max processors 1 else workers) ∧
    c.executor.capacity =
      (if capacity = 0 then min (c.executor.workers * 100) (2 ^ 64 - 1) else capacity) ∧
    0 < c.executor.workers ∧ 0 < c.executor.capacity

theorem error_iff {processors : Nat} {env : Environment} {e : Error} :
    Gateway.ofEnvironmentOn processors env = .error e ↔
      Checked.inOrder.findSome? (Checked.at? env) = some e := by
  rw [← checks_gateway processors, failure?_eq_some_iff]

theorem Checked.at?_eq_none_iff {env : Environment} {u : Checked} :
    u.at? env = none ↔ ∀ v, env u.key = some v → u.Accepts v := by
  simp only [at?, Option.bind_eq_none_iff, fault?_eq_none_iff]

theorem fails_iff {processors : Nat} {env : Environment} :
    (∃ e, Gateway.ofEnvironmentOn processors env = .error e) ↔
      ∃ u : Checked, ∃ v, env u.key = some v ∧ ¬ u.Accepts v := by
  have faultless : (¬ ∃ e, Gateway.ofEnvironmentOn processors env = .error e) ↔
      ∀ u : Checked, u.at? env = none := by
    simp only [error_iff, ← Option.eq_none_iff_forall_ne_some, not_exists,
      List.findSome?_eq_none_iff, Checked.mem_inOrder, forall_const]
  rw [← not_iff_not, faultless]
  simp only [Checked.at?_eq_none_iff, not_exists, not_and, not_not]

theorem first_iff {processors : Nat} {env : Environment} {e : Error} :
    Gateway.ofEnvironmentOn processors env = .error e ↔
      ∃ before u after v, Checked.inOrder = before ++ u :: after ∧
        env u.key = some v ∧ u.fault? v = some e ∧ e.key = u.key ∧ ¬ u.Accepts v ∧
        ∀ u' ∈ before, ∀ v', env u'.key = some v' → u'.Accepts v' := by
  rw [error_iff, List.findSome?_eq_some_iff]
  constructor
  · intro ⟨before, u, after, parts, fault, earlier⟩
    obtain ⟨v, value, fault⟩ := Option.bind_eq_some_iff.mp fault
    have refused : ¬ u.Accepts v := by
      rw [← Checked.fault?_eq_none_iff, fault]
      exact nofun
    exact ⟨before, u, after, v, parts, value, fault, Checked.key_of_fault? fault, refused,
      fun u' hu => Checked.at?_eq_none_iff.mp (earlier u' hu)⟩
  · intro ⟨before, u, after, v, parts, value, fault, _, _, earlier⟩
    exact ⟨before, u, after, parts, Option.bind_eq_some_iff.mpr ⟨v, value, fault⟩,
      fun u' hu => Checked.at?_eq_none_iff.mpr (earlier u' hu)⟩

theorem settled_of_loaded {processors : Nat} {env : Environment} {c : Gateway}
    (h : Gateway.ofEnvironmentOn processors env = .ok c) : ∃ workers capacity,
      env.count "PHP_WORKERS" 0 = .ok workers ∧ env.count "QUEUE_CAPACITY" 0 = .ok capacity ∧
      c.executor.workers = Executor.settleWorkers processors workers ∧
      c.executor.capacity = Executor.settleCapacity capacity c.executor.workers := by
  obtain ⟨workers, worked, settled⟩ := bind_eq_ok (read_of_loaded h .capacity)
  obtain ⟨capacity, queued, settled⟩ := bind_eq_ok settled
  have number := read_of_loaded h .workers
  rw [Field.read, worked] at number
  have own : Executor.settleWorkers processors workers = c.executor.workers := Except.ok.inj number
  have room : Executor.settleCapacity capacity (Executor.settleWorkers processors workers) =
      c.executor.capacity := Except.ok.inj settled
  rw [own] at room
  exact ⟨workers, capacity, worked, queued, own.symm, room.symm⟩

theorem get_eq_of_loaded {processors : Nat} {env env' : Environment} {c c' : Gateway}
    (h : Gateway.ofEnvironmentOn processors env = .ok c)
    (h' : Gateway.ofEnvironmentOn processors env' = .ok c') {f : Field}
    (same : ∀ key ∈ f.keys, env key = env' key) : f.get c = f.get c' := by
  have read := read_of_loaded h f
  rw [Field.read_congr same, read_of_loaded h' f] at read
  exact (Except.ok.inj read).symm

theorem separate (processors : Nat) (env : Environment) : Separate processors env where
  fails := fails_iff
  first _ := first_iff
  fields _ _ _ loaded loaded' _ same := get_eq_of_loaded loaded loaded' same
  whole _ _ _ loaded loaded' same :=
    eq_of_fields fun f => get_eq_of_loaded loaded loaded' (same f)
  settled c loaded := by
    obtain ⟨workers, capacity, worked, queued, number, room⟩ := settled_of_loaded loaded
    have busy : 0 < c.executor.workers := number ▸ Executor.settleWorkers_pos processors workers
    exact ⟨workers, capacity, worked, queued, number, room, busy,
      room ▸ Executor.settleCapacity_pos capacity _ busy⟩

/-- **The first variable at fault is named, and the variables do not interfere.** Loading fails just
if one of seven variables has a value that it does not accept, with the error of the first; what is
loaded has workers and room, and each of its fields depends on one or two variables alone. What is
no text counts as unset. -/
theorem variables_separate (processors : Nat) (values : String → Option Bytes) :
    Separate processors (.ofBytes values) :=
  separate processors (.ofBytes values)

/-- Some variables with their values, and no others. -/
def setTo (values : List (String × Bytes)) (key : String) : Option Bytes :=
  values.lookup key

/-- Two variables at fault behind one that is no text, and a variable of two environments. -/
theorem variables_separate_mixed :
    (∃ e, Gateway.ofEnvironmentOn 4 (.ofBytes (setTo [("LOG_FORMAT", .ofText "xml"),
        ("LISTEN_ADDR", [0xFF]), ("QUEUE_CAPACITY", .ofText "many")])) = .error e ∧
      e.key = "QUEUE_CAPACITY") ∧
    ∃ c c', Gateway.ofEnvironmentOn 4 (.ofBytes (setTo [("PHP_WORKERS", .ofText " 2 ")])) = .ok c ∧
      Gateway.ofEnvironmentOn 4 (.ofBytes (setTo [("LOG_LEVEL", .ofText "debug"),
        ("PHP_WORKERS", .ofText " 2 "), ("DRAIN_TIMEOUT", .ofText "off")])) = .ok c' ∧
      c.executor.capacity = c'.executor.capacity ∧ c.executor.capacity = 200 := by
  constructor
  · have refused : ¬ Checked.Accepts .capacity "many" := by decide +kernel
    have unset : ∀ u ∈ [Checked.listen, .drain, .mode, .workers],
        Environment.ofBytes (setTo [("LOG_FORMAT", .ofText "xml"), ("LISTEN_ADDR", [0xFF]),
          ("QUEUE_CAPACITY", .ofText "many")]) u.key = none := by
      decide +kernel
    refine ⟨.unreadable "QUEUE_CAPACITY" "many" (.number .invalidDigit),
      ((variables_separate 4 _).first _).mpr ⟨[.listen, .drain, .mode, .workers], .capacity,
        [.timeout, .format], "many", rfl, by decide +kernel, by decide +kernel, rfl, refused, ?_⟩,
      rfl⟩
    intro u hu v value
    rw [unset u hu] at value
    cases value
  · obtain ⟨c, loaded⟩ := failure?_eq_none_iff.mp (show failure? (Gateway.ofEnvironmentOn 4
      (.ofBytes (setTo [("PHP_WORKERS", .ofText " 2 ")]))) = none by decide +kernel)
    obtain ⟨c', loaded'⟩ := failure?_eq_none_iff.mp (show failure? (Gateway.ofEnvironmentOn 4
      (.ofBytes (setTo [("LOG_LEVEL", .ofText "debug"), ("PHP_WORKERS", .ofText " 2 "),
        ("DRAIN_TIMEOUT", .ofText "off")]))) = none by decide +kernel)
    have separate := variables_separate 4 (setTo [("PHP_WORKERS", .ofText " 2 ")])
    have shared := separate.fields _ c c' loaded loaded' .capacity (by decide +kernel)
    obtain ⟨workers, capacity, worked, queued, number, room, -⟩ := separate.settled c loaded
    obtain rfl : 2 = workers := Except.ok.inj (.trans (by decide +kernel) worked)
    obtain rfl : 0 = capacity := Except.ok.inj (.trans (by decide +kernel) queued)
    rw [number] at room
    exact ⟨c, c', loaded, loaded', shared, room⟩

end ScriptGateway.Config
