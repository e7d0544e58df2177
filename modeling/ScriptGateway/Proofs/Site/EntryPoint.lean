import ScriptGateway.Gateway
import ScriptGateway.Proofs.Config.Variables
import ScriptGateway.Proofs.Engine.Refusal
import ScriptGateway.Proofs.Files.Path
import ScriptGateway.Proofs.Project.Selection
import ScriptGateway.Proofs.Site.Variables
/-!
# The script that a site runs

Four places look at the script that is given for a site: the environment drops an empty value and
the word `auto`, the project does so again and finds a script instead, the site takes leading
slashes off, and a bridge refuses what is empty. Of all values just those that are made of slashes
come through the first three with nothing left for the fourth.

* `explicit?_chosen?`: the environment drops nothing that the project would keep.
* `OnlySlashes`, `explicit?_slashes_iff`: the values of which nothing is left.
* `configured`, `site_of_start`: the site that a gateway has.
* `entryPoint_eq_empty_iff`: when it has no script.
* `Located`, `script_located`: the script, its name and its file, and who refuses to run it.
* `slash_locates_nothing`: a value that leaves a site without a script.
-/

namespace ScriptGateway.Project

/-! ## 1. What is given -/

/-- **What the environment takes for unset leaves the choice to the project anyway.** -/
theorem explicit?_chosen? (env : Config.Environment) (key : String) :
    explicit? ((env.chosen? key).getD "auto") = (env key).bind explicit? := by
  have auto : explicit? "auto" = none := rfl
  unfold Config.Environment.chosen? Config.Environment.nonempty?
  cases env key with
  | none => exact auto
  | some v =>
    rw [Option.bind_some, Option.filter_some]
    by_cases empty : v = ""
    · rw [empty]
      rfl
    · rw [if_pos (decide_eq_true empty), Option.filter_some]
      split
      · rfl
      · next word =>
        have same : (Text.trimChars v.toList).map Text.asciiLower = ['a', 'u', 't', 'o'] := by
          rw [Bool.not_eq_true', Bool.not_eq_false, Text.sameIgnoringCase, Text.trim,
            String.toList_ofList] at word
          exact eq_of_beq word
        rw [Option.getD_none, auto, explicit?_eq, if_pos (.inr same)]

/-- What is taken is what was given, without the white space around it. -/
theorem of_explicit? {given word : String} (h : explicit? given = some word) :
    word ≠ "" ∧ ∃ before after, given.toList = before ++ word.toList ++ after ∧
      (∀ c ∈ before, Text.isBlank c = true) ∧ ∀ c ∈ after, Text.isBlank c = true := by
  rw [explicit?_eq] at h
  split at h
  · cases h
  · next kept =>
    cases h
    obtain ⟨there, -⟩ := not_or.mp kept
    rw [String.toList_ofList]
    exact ⟨mt String.ofList_eq_empty_iff.mp there,
      Text.exists_append_trimBoth Text.isBlank given.toList⟩

/-- A value of slashes, with white space around them. -/
def OnlySlashes (given : String) : Prop :=
  ∃ before slashes after, given.toList = before ++ slashes ++ after ∧
    (∀ c ∈ before, Text.isBlank c = true) ∧ (∀ c ∈ after, Text.isBlank c = true) ∧
    slashes ≠ [] ∧ ∀ c ∈ slashes, c = '/'

/-- **Such a value is taken, and it is all slashes.** -/
theorem explicit?_slashes_iff {given : String} :
    (∃ word, explicit? given = some word ∧ ∀ c ∈ word.toList, c = '/') ↔ OnlySlashes given := by
  constructor
  · rintro ⟨word, taken, slashes⟩
    obtain ⟨there, before, after, parts, hb, ha⟩ := of_explicit? taken
    exact ⟨before, word.toList, after, parts, hb, ha, mt String.toList_eq_nil_iff.mp there, slashes⟩
  · rintro ⟨before, slashes, after, parts, hb, ha, there, all⟩
    have visible : ∀ c ∈ slashes, Text.isBlank c = false := fun c hc => all c hc ▸ rfl
    have trimmed : Text.trimChars given.toList = slashes := by
      rw [parts, trimChars_around hb ha visible]
    have other : slashes.map Text.asciiLower ≠ ['a', 'u', 't', 'o'] := by
      obtain ⟨c, rest, rfl⟩ := List.exists_cons_of_ne_nil there
      obtain rfl := all c List.mem_cons_self
      exact fun same => absurd (List.cons.inj same).1 (by decide)
    refine ⟨String.ofList slashes, ?_, by rwa [String.toList_ofList]⟩
    rw [explicit?_eq, trimmed, if_neg (not_or.mpr ⟨there, other⟩)]

/-- A script that is found is one of the candidates. -/
theorem Root.found_mem (r : Root) :
    (entryPointCandidates.find? r.has).getD defaultEntryPoint ∈ entryPointCandidates := by
  cases found : entryPointCandidates.find? r.has with
  | none => decide
  | some script => exact List.mem_of_find?_eq_some found

end ScriptGateway.Project

namespace ScriptGateway.Engine.Bridge

/-- An execution is refused as invalid just for a script without a name. -/
theorem invalid_iff {σ : Type} {h : Script.Host σ} {interpreter : Script.Interpreter} {b : Bridge}
    {c : Script.Context} {script : String} {host : σ} :
    (∃ what, (b.execute h interpreter c script host).outcome = .refused (.invalidArgument what)) ↔
      script = "" := by
  constructor
  · rintro ⟨what, outcome⟩
    rcases refuses_of_outcome outcome with ⟨empty, -⟩ | ⟨-, -, busy⟩
    · exact empty
    · cases busy
  · intro empty
    rw [execute_refused h interpreter host (.inl ⟨empty, rfl⟩)]
    exact ⟨_, rfl⟩

end ScriptGateway.Engine.Bridge

namespace ScriptGateway.Site

open Project (OnlySlashes LeavesOpen)

/-! ## 2. The site of a gateway -/

/-- The site of a project in an environment. -/
def configured (documentRoot : String) (project : Project.Root) (env : Config.Environment) :
    Site :=
  .new documentRoot (project.entryPoint ((env.chosen? "ENTRY_POINT").getD "auto"))

/-- The project in a directory. -/
def projectAt (tree : Files.Tree) (documentRoot : String) : Project.Root :=
  { tree, directory := Gateway.locationOf documentRoot }

/-- **A gateway that starts has the site of its environment.** -/
theorem site_of_start {processors : Nat} {env : Config.Environment} {c : Config.Gateway}
    (loaded : Config.Gateway.ofEnvironmentOn processors env = .ok c) {tree : Files.Tree}
    {answer : Except String Unit} {g : Gateway}
    (started : (Gateway.start c tree answer).2 = .ok g) :
    g.front.site = configured c.server.documentRoot (projectAt tree c.server.documentRoot) env := by
  have given : env.chosen? "ENTRY_POINT" = c.server.entryPoint :=
    Except.ok.inj (Config.read_of_loaded loaded .entryPoint)
  rw [configured, given]
  simp only [Gateway.start] at started
  split at started
  · cases started
  · split at started
    · cases started
    · cases started
      rfl

/-! ## 3. Its script -/

theorem toList_entryPoint (documentRoot script : String) :
    (Site.new documentRoot script).entryPoint.toList = script.toList.dropWhile (· == '/') :=
  String.toList_ofList

/-- Whatever is given, the script is relative to the root. -/
theorem relative_entryPoint (documentRoot script : String) :
    (Site.new documentRoot script).entryPoint.toList.head? ≠ some '/' := by
  rw [toList_entryPoint]
  intro slash
  have stops := List.head?_dropWhile_not (· == '/') script.toList
  rw [slash] at stops
  cases stops

theorem entryPoint_eq (project : Project.Root) (env : Config.Environment) :
    project.entryPoint ((env.chosen? "ENTRY_POINT").getD "auto") =
      ((env "ENTRY_POINT").bind Project.explicit?).getD
        ((Project.Root.entryPointCandidates.find? project.has).getD
          Project.Root.defaultEntryPoint) := by
  rw [Project.Root.entryPoint, Project.explicit?_chosen?]
  cases (env "ENTRY_POINT").bind Project.explicit? <;> rfl

/-- **A site has no script just if nothing but slashes is given for it.** -/
theorem entryPoint_eq_empty_iff (documentRoot : String) (project : Project.Root)
    (env : Config.Environment) : (configured documentRoot project env).entryPoint = "" ↔
      ∃ given, env "ENTRY_POINT" = some given ∧ OnlySlashes given := by
  rw [← String.toList_eq_nil_iff, configured, toList_entryPoint, entryPoint_eq]
  cases taken : (env "ENTRY_POINT").bind Project.explicit? with
  | none =>
    refine iff_of_false ?_ ?_
    · have candidates : ∀ script ∈ Project.Root.entryPointCandidates,
          script.toList.dropWhile (· == '/') ≠ [] := by
        decide +kernel
      exact candidates _ project.found_mem
    · rintro ⟨given, value, slashes⟩
      obtain ⟨word, kept, -⟩ := Project.explicit?_slashes_iff.mpr slashes
      rw [value, Option.bind_some, kept] at taken
      cases taken
  | some script =>
    obtain ⟨given, value, kept⟩ := Option.bind_eq_some_iff.mp taken
    rw [Option.getD_some, List.dropWhile_eq_nil_iff]
    simp only [beq_iff_eq, value, Option.some.injEq, exists_eq_left',
      ← Project.explicit?_slashes_iff, kept]

/-- What the project finds needs no slash taken off. -/
theorem entryPoint_found (documentRoot : String) (project : Project.Root)
    {env : Config.Environment} (left : ∀ given, env "ENTRY_POINT" = some given → LeavesOpen given) :
    (configured documentRoot project env).entryPoint =
      (Project.Root.entryPointCandidates.find? project.has).getD "index.php" := by
  have none : (env "ENTRY_POINT").bind Project.explicit? = none :=
    Option.bind_eq_none_iff.mpr fun given value =>
      Project.explicit?_eq_none_iff.mpr (left given value)
  have plain : ∀ script ∈ Project.Root.entryPointCandidates,
      script.toList.dropWhile (· == '/') = script.toList := by
    decide +kernel
  rw [← String.toList_inj, configured, toList_entryPoint, entryPoint_eq, none, Option.getD_none,
    plain _ project.found_mem]
  rfl

/-- What is given is the script, without the white space around it and the slashes in front. -/
theorem entryPoint_given (documentRoot : String) (project : Project.Root)
    {env : Config.Environment} {given : String} (value : env "ENTRY_POINT" = some given)
    (chosen : ¬ LeavesOpen given) : ∃ before slashes after, given.toList =
        before ++ (slashes ++ (configured documentRoot project env).entryPoint.toList) ++ after ∧
      (∀ c ∈ before, Text.isBlank c = true) ∧ (∀ c ∈ slashes, c = '/') ∧
      ∀ c ∈ after, Text.isBlank c = true := by
  obtain ⟨script, kept⟩ :=
    Option.ne_none_iff_exists'.mp (mt Project.explicit?_eq_none_iff.mp chosen)
  obtain ⟨-, before, after, parts, hb, ha⟩ := Project.of_explicit? kept
  refine ⟨before, script.toList.takeWhile (· == '/'), after, ?_, hb, ?_, ha⟩
  · rw [configured, toList_entryPoint, entryPoint_eq, value, Option.bind_some, kept,
      Option.getD_some, List.takeWhile_append_dropWhile, parts]
  · intro c hc
    have slash : (c == '/') = true := List.mem_takeWhile_imp (p := (· == '/')) hc
    exact eq_of_beq slash

theorem last?_scriptName (s : Site) (r : Http.Request) (body : Bytes) (peer : Peer)
    (now : Duration) : last? (s.vars r body peer now) "SCRIPT_NAME" = some s.scriptName :=
  last?_own s r body peer now (v := ("SCRIPT_NAME", s.scriptName))
    (by simp [ownVariables, commonVariables])

theorem last?_scriptFile (s : Site) (r : Http.Request) (body : Bytes) (peer : Peer)
    (now : Duration) : last? (s.vars r body peer now) "SCRIPT_FILENAME" = some s.scriptFile :=
  last?_own s r body peer now (v := ("SCRIPT_FILENAME", s.scriptFile))
    (by simp [ownVariables, commonVariables])

/-! ## 4. The result -/

/-- **The script of a site**, with that document root, that project and that value given. -/
structure Located (documentRoot : String) (project : Project.Root) (given : Option String)
    (s : Site) : Prop where
  root : s.documentRoot = documentRoot
  relative : s.entryPoint.toList.head? ≠ some '/'
  name : s.scriptName = "/" ++ s.entryPoint
  /-- The script is put under the root and never replaces it, however it was written. -/
  file : s.scriptFile = documentRoot ++ Files.separator documentRoot ++ s.entryPoint
  /-- Its segments follow those of the root. -/
  under : Files.segments s.scriptFile.toList =
    Files.segments documentRoot.toList ++ Files.segments s.entryPoint.toList
  /-- A script is told its name and its file. -/
  told : ∀ r body peer now,
    last? (s.vars r body peer now) "SCRIPT_NAME" = some ("/" ++ s.entryPoint) ∧
    last? (s.vars r body peer now) "SCRIPT_FILENAME" = some s.scriptFile
  /-- If nothing is given that is not blank or `auto`, the project finds its script. -/
  found : (∀ value, given = some value → LeavesOpen value) →
    s.entryPoint = (Project.Root.entryPointCandidates.find? project.has).getD "index.php"
  /-- What is given otherwise is the script, but for white space around and slashes in front. -/
  chosen : ∀ value, given = some value → ¬ LeavesOpen value → ∃ before slashes after,
    value.toList = before ++ (slashes ++ s.entryPoint.toList) ++ after ∧
    (∀ c ∈ before, Text.isBlank c = true) ∧ (∀ c ∈ slashes, c = '/') ∧
    ∀ c ∈ after, Text.isBlank c = true
  /-- There is a script, unless what is given is made of slashes. -/
  empty_iff : s.entryPoint = "" ↔ ∃ value, given = some value ∧ OnlySlashes value
  /-- No bridge refuses a request of the site as invalid, unless what is given is made of
  slashes; then every bridge refuses every request. -/
  invalid_iff : ∀ (σ : Type) (h : Script.Host σ) (interpreter : Script.Interpreter)
    (b : Engine.Bridge) (c : Script.Context) (host : σ) (r : Http.Request) (body : Bytes)
    (peer : Peer) (now : Duration),
    (∃ what, (b.execute h interpreter c (s.scriptRequest r body peer now).script host).outcome =
      .refused (.invalidArgument what)) ↔ ∃ value, given = some value ∧ OnlySlashes value

theorem located (documentRoot : String) (project : Project.Root) (env : Config.Environment) :
    Located documentRoot project (env "ENTRY_POINT") (configured documentRoot project env) where
  root := rfl
  relative := relative_entryPoint documentRoot _
  name := rfl
  file := Files.join_relative documentRoot (relative_entryPoint documentRoot _)
  under := Files.segments_join_relative documentRoot (relative_entryPoint documentRoot _)
  told r body peer now := ⟨last?_scriptName _ r body peer now, last?_scriptFile _ r body peer now⟩
  found := entryPoint_found documentRoot project
  chosen _ := entryPoint_given documentRoot project
  empty_iff := entryPoint_eq_empty_iff documentRoot project env
  invalid_iff _ _ _ _ _ _ _ _ _ _ :=
    Engine.Bridge.invalid_iff.trans (entryPoint_eq_empty_iff documentRoot project env)

/-- **Every gateway has a script to run, unless what is given for it is made of slashes.** In every
environment and for every project the script is a path under the document root, and requests for it
are refused as invalid just for such a value; and this is the site of every gateway that starts. -/
theorem script_located (env : Config.Environment) :
    (∀ (documentRoot : String) (project : Project.Root),
      Located documentRoot project (env "ENTRY_POINT") (configured documentRoot project env)) ∧
    ∀ (processors : Nat) (c : Config.Gateway) (tree : Files.Tree) (answer : Except String Unit)
      (g : Gateway), Config.Gateway.ofEnvironmentOn processors env = .ok c →
      (Gateway.start c tree answer).2 = .ok g →
      g.front.site =
        configured c.server.documentRoot (projectAt tree c.server.documentRoot) env :=
  ⟨fun documentRoot project => located documentRoot project env,
    fun _ _ _ _ _ loaded started => site_of_start loaded started⟩

/-- A project with a script that can be found. -/
def shopTree : Files.Tree :=
  { entries := [(["srv", "shop", "index.php"], .file [])] }

/-- An environment in which that project is served, with a value given for its script. -/
def shopEnvironment (script : String) : Config.Environment :=
  .ofBytes (Config.setTo [("DOCUMENT_ROOT", .ofText "/srv/shop/"), ("ENTRY_POINT", .ofText script)])

/-- The gateway that starts there, if one does. -/
def shopGateway? (script : String) : Option Gateway :=
  (Config.Gateway.ofEnvironmentOn 1 (shopEnvironment script)).toOption.bind fun c =>
    (Gateway.start c shopTree (.ok ())).2.toOption

theorem exists_shopGateway (script : String) (h : (shopGateway? script).isSome = true) :
    ∃ c g, Config.Gateway.ofEnvironmentOn 1 (shopEnvironment script) = .ok c ∧
      (Gateway.start c shopTree (.ok ())).2 = .ok g ∧ c.server.documentRoot = "/srv/shop/" := by
  have ok {ε α : Type} {r : Except ε α} {a : α} (h : r.toOption = some a) : r = .ok a := by
    cases r with
    | ok b => rw [Option.some.inj h]
    | error e => cases h
  obtain ⟨g, found⟩ := Option.isSome_iff_exists.mp h
  rw [shopGateway?, Option.bind_eq_some_iff] at found
  obtain ⟨c, read, started⟩ := found
  have text : (Bytes.ofText "/srv/shop/").toText? = some "/srv/shop/" := by decide +kernel
  have value : shopEnvironment script "DOCUMENT_ROOT" = some "/srv/shop/" := text
  have root : (shopEnvironment script).getD "DOCUMENT_ROOT" "/var/www/html" =
      c.server.documentRoot :=
    Except.ok.inj (Config.read_of_loaded (ok read) .documentRoot)
  rw [Config.Environment.getD, value] at root
  exact ⟨c, g, ok read, ok started, root.symm⟩

/-- A script that looks like an absolute path lies under the root all the same. -/
theorem script_located_absolute :
    ∃ c g, Config.Gateway.ofEnvironmentOn 1 (shopEnvironment " //cart.php ") = .ok c ∧
      (Gateway.start c shopTree (.ok ())).2 = .ok g ∧
      g.front.site.scriptFile = "/srv/shop/cart.php" ∧ g.front.site.entryPoint ≠ "" := by
  obtain ⟨c, g, loaded, started, root⟩ :=
    exists_shopGateway " //cart.php " (by decide +kernel)
  obtain ⟨located, same⟩ := script_located (shopEnvironment " //cart.php ")
  have site := same 1 c shopTree (.ok ()) g loaded started
  rw [root] at site
  have there := located "/srv/shop/" (projectAt shopTree "/srv/shop/")
  have script : (configured "/srv/shop/" (projectAt shopTree "/srv/shop/")
      (shopEnvironment " //cart.php ")).entryPoint = "cart.php" := by
    decide +kernel
  refine ⟨c, g, loaded, started, ?_, ?_⟩
  · rw [site, there.file, script]
    decide +kernel
  · rw [site, script]
    decide

/-- **A single slash leaves a site without a script**: the project has one that could be found, the
gateway starts, and its bridge refuses every request for the site. -/
theorem slash_locates_nothing :
    (projectAt shopTree "/srv/shop/").has "index.php" = true ∧
    (∃ c g, Config.Gateway.ofEnvironmentOn 1 (shopEnvironment "/") = .ok c ∧
      (Gateway.start c shopTree (.ok ())).2 = .ok g ∧ g.front.site.entryPoint = "" ∧
      ∀ (interpreter : Script.Interpreter) (c : Script.Context) (r : Http.Request) (body : Bytes)
        (peer : Peer) (now : Duration),
        (g.executor.core.engine.bridge.execute Executor.WorkerHost.operations interpreter c
          (g.front.site.scriptRequest r body peer now).script g.executor.core.host).outcome =
          .refused (.invalidArgument "script path is empty")) ∧
      ¬ ∀ (documentRoot : String) (project : Project.Root) (env : Config.Environment),
        (configured documentRoot project env).entryPoint ≠ "" := by
  have nothing : (configured "/srv/shop/" (projectAt shopTree "/srv/shop/")
      (shopEnvironment "/")).entryPoint = "" := by
    decide +kernel
  obtain ⟨c, g, loaded, started, root⟩ := exists_shopGateway "/" (by decide +kernel)
  have site := site_of_start loaded started
  rw [root] at site
  have empty : g.front.site.entryPoint = "" := site ▸ nothing
  refine ⟨by decide +kernel, ⟨c, g, loaded, started, empty, fun interpreter _ _ _ _ _ => ?_⟩,
    fun always => always _ _ _ nothing⟩
  exact congrArg Engine.Bridge.Execution.outcome
    (Engine.Bridge.execute_refused _ interpreter _ (.inl ⟨empty, rfl⟩))

end ScriptGateway.Site
