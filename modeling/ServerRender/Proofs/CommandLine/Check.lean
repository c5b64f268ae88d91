import ServerRender.Proofs.CommandLine.Registration
import ServerRender.Proofs.Renderer.Generations
import ServerRender.Proofs.Renderer.Session
import ServerRender.Proofs.Renderer.SingleCall
import ServerRender.Script.Bundle

/-!
# What a check vouches for

A check loads the registered components one after the other and names those that fail.
It goes through the renderer for that, with its cache, its pool and the record of a
context, any of which could answer for a component that no engine has seen.  The main
statement is that none does: a check ends with success exactly when the script of every
registered component loads into an environment of its own, and else it names the
components whose scripts do not.
-/

namespace ServerRender

variable {World Environment : Type}

def Verdict.isValue {α : Type} : Verdict α → Bool
  | .value _ => true
  | _ => false

namespace Engine

/-- A load into an environment that is made for it. -/
def loadPlainly (engine : Engine World Environment) (world : World) (script : String) :
    World × Verdict Unit :=
  match engine.create world with
  | (created, .value fresh) =>
    let (later, reply) := engine.load created fresh script
    (later, reply.outcome)
  | (created, .failure error) => (created, .failure error)
  | (created, .panic) => (created, .panic)

/-- The components whose scripts do not load when one is loaded after the other. -/
def failing (engine : Engine World Environment) : World → List (String × String) → List String
  | _, [] => []
  | world, (name, script) :: rest =>
    let (later, verdict) := engine.loadPlainly world script
    if verdict.isValue then engine.failing later rest else name :: engine.failing later rest

/-- No load has to wait for anything else to happen. -/
def Prompt (engine : Engine World Environment) : Prop :=
  ∀ world environment script,
    (engine.load world environment script).2.gates.all
      (engine.isOpen (engine.load world environment script).1) = true

end Engine

theorem Script.prompt_engine (console : Bool) : (Script.engine console).Prompt := by
  intro world realm script
  rw [List.all_eq_true]
  intro gate hgate
  rfl

variable {engine : Engine World Environment}

/-- What was loaded before has no part in a load. -/
theorem EngineScopes.load_eq_loadPlainly (engine : Engine World Environment) (world : World)
    (scopes : EngineScopes Environment) (bundle : CodeBundle) :
    (scopes.load engine world bundle).1 = (engine.loadPlainly world bundle.source).1 ∧
      (scopes.load engine world bundle).2.outcome =
        (engine.loadPlainly world bundle.source).2 := by
  cases hcreate : engine.create world with
  | mk created verdict =>
      cases verdict with
      | value fresh => simp [load, Engine.loadPlainly, hcreate, Reply.map]
      | failure error => simp [load, Engine.loadPlainly, hcreate]
      | panic => simp [load, Engine.loadPlainly, hcreate]

theorem EngineScopes.gates_load (hprompt : engine.Prompt) (world : World)
    (scopes : EngineScopes Environment) (bundle : CodeBundle) :
    (scopes.load engine world bundle).2.gates.all
      (engine.isOpen (scopes.load engine world bundle).1) = true := by
  cases hcreate : engine.create world with
  | mk created verdict =>
      cases verdict with
      | value fresh =>
          have hgates := hprompt created fresh bundle.source
          simpa [load, hcreate, Reply.map] using hgates
      | failure error => simp [load, hcreate]
      | panic => simp [load, hcreate]

namespace ExecutionContext

variable {context : ExecutionContext Environment} {bundle : CodeBundle}

theorem gates_ensureLoaded (hprompt : engine.Prompt) (world : World) :
    (context.ensureLoaded engine world bundle).2.gates.all
      (engine.isOpen (context.ensureLoaded engine world bundle).1) = true := by
  by_cases hcurrent : context.generation? bundle.component = some bundle.generation
  · rw [ensureLoaded_of_current world hcurrent]
    rfl
  · simp only [ensureLoaded, hcurrent, if_false]
    exact EngineScopes.gates_load hprompt world context.thread.scopes bundle

/-- A context that has nothing of a component on record has the engine load it. -/
theorem ensureLoaded_eq_loadPlainly (engine : Engine World Environment) (world : World)
    (hnone : context.generation? bundle.component = none) :
    (context.ensureLoaded engine world bundle).1 =
        (engine.loadPlainly world bundle.source).1 ∧
      (context.ensureLoaded engine world bundle).2.outcome.isOk =
        (engine.loadPlainly world bundle.source).2.isValue := by
  have hstale : context.generation? bundle.component ≠ some bundle.generation := by
    rw [hnone]
    exact Option.some_ne_none _ ∘ Eq.symm
  obtain ⟨hworld, houtcome⟩ :=
    EngineScopes.load_eq_loadPlainly engine world context.thread.scopes bundle
  constructor
  · simp only [ensureLoaded, hstale, if_false]
    exact hworld
  · rw [outcome_ensureLoaded world hstale, houtcome]
    cases (engine.loadPlainly world bundle.source).2 with
    | value result => rfl
    | failure error => rfl
    | panic => rfl

/-- A load leaves nothing on record of other components that was not there before. -/
theorem generation?_ensureLoaded_of_ne {name : String} (world : World)
    (hnone : context.generation? name = none) (hname : bundle.component ≠ name) :
    (context.ensureLoaded engine world bundle).2.after.generation? name = none := by
  by_contra hsome
  obtain ⟨generation, hgeneration⟩ := Option.ne_none_iff_exists'.mp hsome
  rcases (continues_ensureLoaded world).recorded hgeneration with
    hbefore | ⟨hcomponent, -⟩
  · rw [hnone] at hbefore
    contradiction
  · exact hname hcomponent

end ExecutionContext

/-- The renderer can be set up: there is a template without mistakes, and room in the
pool. -/
def ConfigFile.SetsUp (config : ConfigFile) (read : FileReader) : Prop :=
  ∃ text template, config.wrapper.load read = .ok text ∧ Template.parse text = .ok template ∧
    config.renderer.pool.isValid = true

/-! ## Loading all components -/

namespace CommandLine

variable {world : World} {installation : Installation Environment}
variable {jobs : List (Job Environment)} {component : String} {bundle : CodeBundle}

theorem callAtOnce_one (renderer : Renderer World Environment) (call : Call) :
    callAtOnce engine renderer call 1 =
      (((renderer.accept call).await engine renderer.jobs.length 4 0).1,
        (((renderer.accept call).await engine renderer.jobs.length 4 0).1.answer?
          renderer.jobs.length).toList,
        ((renderer.accept call).await engine renderer.jobs.length 4 0).2.1) := by
  have hrange : List.range 1 = [0] := rfl
  simp only [callAtOnce, hrange, List.foldl_cons, List.foldl_nil, Nat.add_zero,
    List.nil_append]

/-- A load that a quiet renderer is asked for: which renderer is left, and that the one
answer says whether the engine has done it. -/
theorem callAtOnce_load (world : World) (hprompt : engine.Prompt)
    (hquiet : installation.desk.Quiet)
    (hfinished : ∀ job ∈ jobs, job.IsFinished)
    (hget : installation.cache.get component = .ok bundle)
    {context : ExecutionContext Environment}
    (hlent : (installation.desk.pool.lend ExecutionContext.create).1 = context) :
    ∃ answer,
      (callAtOnce engine ⟨world, [installation], jobs⟩ (.load component) 1).1 =
        ⟨(context.ensureLoaded engine world bundle).1,
          [{ installation with
              desk := installation.desk.visited .create 0 installation.millis
                (context.ensureLoaded engine world bundle).2.after }],
          jobs ++ [⟨.load component, false, .finished answer⟩]⟩ ∧
      (callAtOnce engine ⟨world, [installation], jobs⟩ (.load component) 1).2.1 = [answer] ∧
      answer.isOk = (context.ensureLoaded engine world bundle).2.outcome.isOk := by
  have hwork : (installation.desk.pool.lend ExecutionContext.create).1.ensureLoaded engine world
      bundle = context.ensureLoaded engine world bundle := by
    rw [hlent]
  obtain ⟨answer, hok, hrun⟩ := Renderer.run_load 0 hquiet hfinished hget hwork
    (ExecutionContext.gates_ensureLoaded hprompt world)
  have hanswer : (Renderer.serving (context.ensureLoaded engine world bundle).1 installation
      (installation.desk.visited .create 0 installation.millis
        (context.ensureLoaded engine world bundle).2.after) jobs (.load component)
      (.finished answer)).answer? jobs.length = some answer := by
    rw [Renderer.answer?, Renderer.job_serving]
    rfl
  refine ⟨answer, ?_, ?_, hok⟩
  · rw [callAtOnce_one]
    exact Renderer.await_of_answer hrun hanswer
  · rw [callAtOnce_one, Renderer.await_of_answer hrun hanswer, hanswer]
    rfl

theorem loadAll_cons {renderer : Renderer World Environment} {rest : List String}
    {answer : Except RenderError Answer}
    (hanswer : (callAtOnce engine renderer (.load component) 1).2.1 = [answer]) :
    (loadAll engine renderer (component :: rest)).1 =
      let others := (loadAll engine (callAtOnce engine renderer (.load component) 1).1 rest).1
      if answer.isOk then others else component :: others := by
  simp only [loadAll, hanswer, List.any_cons, List.any_nil, Bool.or_false]
  cases answer with
  | ok value => rfl
  | error error => rfl

theorem failing_cons (world : World) (name script : String) (rest : List (String × String)) :
    engine.failing world ((name, script) :: rest) =
      let others := engine.failing (engine.loadPlainly world script).1 rest
      if (engine.loadPlainly world script).2.isValue then others else name :: others := rfl

/-- All calls are finished, and the bundles are in the cache, but in no context yet. -/
structure Untouched (installation : Installation Environment) (jobs : List (Job Environment))
    (bundles : List CodeBundle) : Prop where
  quiet : installation.desk.Quiet
  finished : ∀ job ∈ jobs, job.IsFinished
  cached : ∀ bundle ∈ bundles, installation.cache.get bundle.component = .ok bundle
  unloaded : ∀ context ∈ installation.desk.pool.idle, ∀ bundle ∈ bundles,
    context.generation? bundle.component = none

namespace Untouched

variable {bundles : List CodeBundle}

theorem lent (huntouched : Untouched installation jobs bundles) (hmem : bundle ∈ bundles) :
    (installation.desk.pool.lend ExecutionContext.create).1.generation? bundle.component =
      none := by
  rcases Pool.lend_cases ExecutionContext.create installation.desk.pool with hidle | hnew
  · exact huntouched.unloaded _ hidle bundle hmem
  · rw [hnew]
    rfl

/-- A load of the first bundle leaves the others untouched. -/
theorem rest (huntouched : Untouched installation jobs (bundle :: bundles))
    (hother : ∀ other ∈ bundles, bundle.component ≠ other.component) (world : World)
    (answer : Except RenderError Answer) {context : ExecutionContext Environment}
    (hlent : (installation.desk.pool.lend ExecutionContext.create).1 = context) :
    Untouched
      { installation with
        desk := installation.desk.visited .create 0 installation.millis
          (context.ensureLoaded engine world bundle).2.after }
      (jobs ++ [⟨.load bundle.component, false, .finished answer⟩]) bundles where
  quiet := Pool.Desk.quiet_visited huntouched.quiet _ _ _
  finished := by
    intro job hjob
    rcases List.mem_append.mp hjob with hjob | hjob
    · exact huntouched.finished job hjob
    · rw [List.mem_singleton.mp hjob]
      exact ⟨answer, rfl⟩
  cached other hmem := huntouched.cached other (List.mem_cons_of_mem bundle hmem)
  unloaded := by
    intro idle hidle other hmem
    rw [Pool.Desk.idle_visited] at hidle
    rcases List.mem_cons.mp hidle with rfl | hidle
    · have hnone := huntouched.lent (List.mem_cons_of_mem bundle hmem)
      rw [hlent] at hnone
      exact ExecutionContext.generation?_ensureLoaded_of_ne world hnone (hother other hmem)
    · exact huntouched.unloaded idle (Pool.mem_idle_of_lend hidle) other
        (List.mem_cons_of_mem bundle hmem)

end Untouched

/-- What a check finds does not depend on the renderer that it goes through. -/
theorem loadAll_eq_failing (world : World) (hprompt : engine.Prompt) {bundles : List CodeBundle}
    (hnames : bundles.Pairwise fun bundle other => bundle.component ≠ other.component)
    (huntouched : Untouched installation jobs bundles) :
    (loadAll engine ⟨world, [installation], jobs⟩ (bundles.map CodeBundle.component)).1 =
      engine.failing world (bundles.map fun bundle => (bundle.component, bundle.source)) := by
  induction hnames generalizing world installation jobs with
  | nil => rfl
  | @cons bundle rest hother hrest ih =>
      obtain ⟨context, hlent⟩ :
          ∃ context, (installation.desk.pool.lend ExecutionContext.create).1 = context :=
        ⟨_, rfl⟩
      -- Nothing is on record of the bundle in the context that is lent, so it is the engine
      -- that answers, and the world that it leaves is the one for the next load.
      have hnone := huntouched.lent List.mem_cons_self
      rw [hlent] at hnone
      obtain ⟨hworld, hloads⟩ := ExecutionContext.ensureLoaded_eq_loadPlainly engine world
        hnone
      obtain ⟨answer, hlater, hanswer, hok⟩ := callAtOnce_load world hprompt
        huntouched.quiet huntouched.finished (huntouched.cached bundle List.mem_cons_self) hlent
      rw [List.map_cons, List.map_cons, loadAll_cons hanswer, hlater,
        ih _ (huntouched.rest hother world answer hlent), failing_cons, hok, hloads, hworld]

variable {read : FileReader} {path : String} {config : ConfigFile}

theorem toNat_size_pos (hsetsUp : config.SetsUp read) :
    0 < config.renderer.pool.size.toNat := by
  obtain ⟨_, _, _, _, hvalid⟩ := hsetsUp
  have hsize : config.renderer.pool.size ≠ 0 := by simpa [PoolOptions.isValid] using hvalid
  apply Nat.pos_of_ne_zero
  intro hzero
  exact hsize (UInt64.toNat_inj.mp hzero)

theorem prepare_of_setsUp (world : World) (hload : ConfigFile.load read path = .ok config)
    (hsetsUp : config.SetsUp read) :
    ∃ installation : Installation Environment,
      prepare world read path = .ok ⟨world, [installation], []⟩ ∧
      installation.cache = ((CodeCache.empty "").buildAll (readSources read config)).1 ∧
      installation.desk = .create config.renderer.pool.size.toNat := by
  obtain ⟨text, template, htext, htemplate, hvalid⟩ := hsetsUp
  simp [prepare, hload, htext, htemplate, Renderer.create, Installation.build,
    PoolOptions.validate, hvalid, bind, Except.bind, pure, Except.pure, Except.mapError]

theorem prepare_of_not_setsUp (world : World)
    (hnone : ∀ config, ConfigFile.load read path = .ok config → ¬ config.SetsUp read) :
    ∃ failure, (prepare world read path : Except Failure (Renderer World Environment)) =
      .error failure := by
  cases hload : ConfigFile.load read path with
  | error error => simp [prepare, hload, bind, Except.bind, Except.mapError]
  | ok config =>
      cases htext : config.wrapper.load read with
      | error error => simp [prepare, hload, htext, bind, Except.bind, Except.mapError]
      | ok text =>
          cases htemplate : Template.parse text with
          | error problem =>
              simp [prepare, hload, htext, htemplate, Renderer.create, Installation.build, bind,
                Except.bind, Except.mapError]
          | ok template =>
              have hinvalid : ¬ config.renderer.pool.isValid = true := fun hvalid =>
                hnone config hload ⟨text, template, htext, htemplate, hvalid⟩
              simp [prepare, hload, htext, htemplate, Renderer.create, Installation.build,
                PoolOptions.validate, hinvalid, bind, Except.bind, Except.mapError]

/-- The registered components with the scripts that the cache has for them. -/
theorem exists_untouched {installation : Installation Environment}
    (hcache : installation.cache = ((CodeCache.empty "").buildAll (readSources read config)).1)
    {size : Nat} (hdesk : installation.desk = .create size) (hsize : 0 < size) :
    ∃ bundles : List CodeBundle,
      bundles.map (fun bundle => (bundle.component, bundle.source)) = config.scripts read ∧
      Untouched installation [] bundles := by
  have hbundle : ∀ entry ∈ config.scripts read,
      ∃ number, installation.cache.get entry.1 = .ok ⟨entry.1, entry.2, number⟩ := by
    intro entry hmem
    rw [hcache]
    exact get_of_readSources hmem
  choose! number hnumber using hbundle
  refine ⟨(config.scripts read).map fun entry => ⟨entry.1, entry.2, number entry⟩, ?_, ?_⟩
  · rw [List.map_map]
    exact List.map_id _
  · constructor
    · rw [hdesk]
      exact Pool.Desk.quiet_create hsize
    · intro job hjob
      contradiction
    · intro bundle hmem
      obtain ⟨entry, hentry, rfl⟩ := List.mem_map.mp hmem
      exact hnumber entry hentry
    · intro context hidle
      rw [hdesk] at hidle
      contradiction

def summary (total : Nat) (failed : List String) (events : List Log.Event) : Outcome :=
  if failed.isEmpty then ⟨toString total ++ " component(s) OK\n", none, events⟩
  else
    ⟨"", some ⟨toString failed.length ++ " of " ++ toString total ++
      " component(s) failed: " ++ ", ".intercalate failed, []⟩, events⟩

theorem exitCode_summary {total : Nat} {failed : List String} {events : List Log.Event} :
    (summary total failed events).exitCode = 0 ↔ failed = [] := by
  cases failed with
  | nil => simp [summary, Outcome.exitCode]
  | cons first rest => simp [summary, Outcome.exitCode]

theorem checkTask_eq (world : World) (installation : Installation Environment) :
    checkTask engine ⟨world, [installation], []⟩ =
      summary installation.cache.components.length
        (loadAll engine ⟨world, [installation], []⟩ installation.cache.components).1
        (loadAll engine ⟨world, [installation], []⟩ installation.cache.components).2 := rfl

/-- The check of a renderer that was set up for a configuration. -/
theorem exists_checkTask_eq (hprompt : engine.Prompt) (world : World)
    {installation : Installation Environment}
    (hcache : installation.cache = ((CodeCache.empty "").buildAll (readSources read config)).1)
    {size : Nat} (hdesk : installation.desk = .create size) (hsize : 0 < size) :
    ∃ events, checkTask engine ⟨world, [installation], []⟩ =
      summary (config.scripts read).length (engine.failing world (config.scripts read))
        events := by
  obtain ⟨bundles, hscripts, huntouched⟩ := exists_untouched hcache hdesk hsize
  have hcomponents : installation.cache.components = bundles.map CodeBundle.component := by
    rw [hcache, components_of_readSources, ← hscripts, List.map_map]
    rfl
  have hlength : installation.cache.components.length = (config.scripts read).length := by
    rw [hcomponents, ← hscripts, List.length_map, List.length_map]
  have hnames : bundles.Pairwise fun bundle other => bundle.component ≠ other.component := by
    have hregisters : config.Registers read (config.scripts read) :=
      ConfigFile.registers_scripts
    have hordered := hregisters.ordered
    rw [← hscripts, List.map_map, List.pairwise_map] at hordered
    apply List.Pairwise.imp _ hordered
    intro bundle other hlt heq
    simp only [Function.comp_apply, heq] at hlt
    exact String.lt_irrefl _ hlt
  have hfailing := loadAll_eq_failing world hprompt hnames huntouched
  rw [hscripts, ← hcomponents] at hfailing
  refine ⟨(loadAll engine ⟨world, [installation], []⟩ installation.cache.components).2, ?_⟩
  rw [checkTask_eq, hfailing, hlength]

theorem exists_perform_eq (hprompt : engine.Prompt) (world : World) (jsonLogs : Bool)
    (hload : ConfigFile.load read path = .ok config) (hsetsUp : config.SetsUp read) :
    ∃ events, perform engine world read ⟨path, jsonLogs, .check⟩ =
      summary (config.scripts read).length (engine.failing world (config.scripts read))
        events := by
  obtain ⟨installation, hprepare, hcache, hdesk⟩ :=
    @prepare_of_setsUp World Environment _ _ _ world hload hsetsUp
  obtain ⟨events, hcheck⟩ :=
    exists_checkTask_eq hprompt world hcache hdesk (toNat_size_pos hsetsUp)
  refine ⟨events, ?_⟩
  rw [perform, hprepare]
  exact hcheck

/-! ## What a check tells -/

/-- What the outcome of a check tells about the configuration at a path. -/
structure Vouches (engine : Engine World Environment) (world : World) (read : FileReader)
    (path : String) (outcome : Outcome) : Prop where
  /-- There is success exactly when a renderer can be set up for the configuration and the
  script of every registered component loads. -/
  success_iff : outcome.exitCode = 0 ↔
    ∃ config scripts, ConfigFile.load read path = .ok config ∧ config.SetsUp read ∧
      config.Registers read scripts ∧ engine.failing world scripts = []
  /-- With success, the registered components are counted. -/
  counts : ∀ {config : ConfigFile} {scripts : List (String × String)},
    ConfigFile.load read path = .ok config → config.SetsUp read →
    config.Registers read scripts → engine.failing world scripts = [] →
    outcome.output = toString scripts.length ++ " component(s) OK\n"
  /-- Else the components whose scripts do not load are named. -/
  names : ∀ {config : ConfigFile} {scripts : List (String × String)},
    ConfigFile.load read path = .ok config → config.SetsUp read →
    config.Registers read scripts → engine.failing world scripts ≠ [] →
    outcome.failure = some
      ⟨toString (engine.failing world scripts).length ++ " of " ++ toString scripts.length ++
        " component(s) failed: " ++ ", ".intercalate (engine.failing world scripts), []⟩

theorem vouches_of_setsUp {events : List Log.Event}
    (hload : ConfigFile.load read path = .ok config) (hsetsUp : config.SetsUp read) :
    Vouches engine world read path
      (summary (config.scripts read).length (engine.failing world (config.scripts read))
        events) := by
  have hscripts : ∀ {other : ConfigFile} {scripts : List (String × String)},
      ConfigFile.load read path = .ok other → other.Registers read scripts →
      config.scripts read = scripts := by
    intro other scripts hother hregisters
    obtain rfl := Except.ok.inj (hload.symm.trans hother)
    exact ConfigFile.registers_scripts.unique hregisters
  constructor
  · rw [exitCode_summary]
    constructor
    · intro hnone
      exact ⟨config, config.scripts read, hload, hsetsUp, ConfigFile.registers_scripts, hnone⟩
    · rintro ⟨other, scripts, hother, -, hregisters, hnone⟩
      rw [hscripts hother hregisters]
      exact hnone
  · intro other scripts hother _ hregisters hnone
    rw [hscripts hother hregisters, hnone]
    rfl
  · intro other scripts hother _ hregisters hsome
    rw [hscripts hother hregisters, summary, List.isEmpty_eq_false_iff.mpr hsome]
    rfl

theorem vouches_of_not_setsUp {failure : Failure}
    (hnone : ∀ config, ConfigFile.load read path = .ok config → ¬ config.SetsUp read) :
    Vouches engine world read path ⟨"", some failure, []⟩ := by
  constructor
  · constructor
    · intro hsuccess
      contradiction
    · rintro ⟨config, scripts, hload, hsetsUp, -, -⟩
      exact absurd hsetsUp (hnone config hload)
  · intro config scripts hload hsetsUp
    exact absurd hsetsUp (hnone config hload)
  · intro config scripts hload hsetsUp
    exact absurd hsetsUp (hnone config hload)

/-- A check of any configuration, whatever its files hold. -/
theorem vouches_of_check (hprompt : engine.Prompt) (world : World) (read : FileReader)
    (path : String) (jsonLogs : Bool) :
    Vouches engine world read path (perform engine world read ⟨path, jsonLogs, .check⟩) := by
  by_cases hready : ∃ config, ConfigFile.load read path = .ok config ∧ config.SetsUp read
  · obtain ⟨config, hload, hsetsUp⟩ := hready
    obtain ⟨events, hperform⟩ := exists_perform_eq hprompt world jsonLogs hload hsetsUp
    rw [hperform]
    exact vouches_of_setsUp hload hsetsUp
  · have hnone : ∀ config, ConfigFile.load read path = .ok config → ¬ config.SetsUp read :=
      fun config hload hsetsUp => hready ⟨config, hload, hsetsUp⟩
    obtain ⟨failure, hprepare⟩ := @prepare_of_not_setsUp World Environment _ _ world hnone
    rw [perform, hprepare]
    exact vouches_of_not_setsUp hnone

/-- An engine that fails at every second load. -/
def moodyEngine : Engine Nat Unit where
  create world := (world, .value ())
  load world _ _ :=
    (world + 1, ⟨[], (), [],
      if world % 2 = 0 then .value () else .failure (.program "unexpected token" [])⟩)
  eval world _ _ := (world, ⟨[], (), [], .value .null⟩)
  isOpen _ _ := true

/-- Three components, of which the last one has no file, and one without a file alone. -/
def sampleFiles : FileReader
  | "prerender.toml" =>
    .ok ("components = [[\"A\", \"a.js\"], [\"B\", \"b.js\"], [\"C\", \"c.js\"]]\n" ++
      "[wrapper]\ntemplate = \"\"\n")
  | "missing.toml" => .ok "components = [[\"C\", \"c.js\"]]\n[wrapper]\ntemplate = \"\"\n"
  | "a.js" => .ok "plain"
  | "b.js" => .ok "broken"
  | _ => .error .notFound

def sampleConfig : ConfigFile where
  renderer := .defaults
  wrapper := ⟨some "", none⟩
  core := none
  components := [⟨"A", "a.js"⟩, ⟨"B", "b.js"⟩, ⟨"C", "c.js"⟩]

def missingConfig : ConfigFile :=
  { sampleConfig with components := [⟨"C", "c.js"⟩] }

theorem load_of_toOption (hload : (ConfigFile.load read path).toOption = some config) :
    ConfigFile.load read path = .ok config := by
  cases hresult : ConfigFile.load read path with
  | error error =>
      rw [hresult] at hload
      contradiction
  | ok other =>
      rw [hresult] at hload
      exact congrArg Except.ok (Option.some.inj hload)

theorem load_sampleConfig : ConfigFile.load sampleFiles "prerender.toml" = .ok sampleConfig :=
  load_of_toOption (by decide +kernel)

theorem load_missingConfig : ConfigFile.load sampleFiles "missing.toml" = .ok missingConfig :=
  load_of_toOption (by decide +kernel)

theorem setsUp_sampleConfig : sampleConfig.SetsUp sampleFiles :=
  ⟨"", ⟨[]⟩, rfl, Session.parse_empty, rfl⟩

theorem setsUp_missingConfig : missingConfig.SetsUp sampleFiles :=
  ⟨"", ⟨[]⟩, rfl, Session.parse_empty, rfl⟩

/-- The component that does not load is named, and the one without a file is not. -/
theorem vouches_of_broken :
    moodyEngine.Prompt ∧
      (perform moodyEngine 0 sampleFiles ⟨"prerender.toml", false, .check⟩).failure =
        some ⟨"1 of 2 component(s) failed: B", []⟩ ∧
      (perform moodyEngine 0 sampleFiles ⟨"missing.toml", false, .check⟩).exitCode = 0 ∧
      (perform moodyEngine 0 sampleFiles ⟨"missing.toml", false, .check⟩).output =
        "0 component(s) OK\n" := by
  have hprompt : moodyEngine.Prompt := by
    intro world environment script
    rfl
  have hbroken := vouches_of_check hprompt 0 sampleFiles "prerender.toml" false
  have hmissing := vouches_of_check hprompt 0 sampleFiles "missing.toml" false
  have hfailing : moodyEngine.failing 0 (sampleConfig.scripts sampleFiles) = ["B"] := by
    decide +kernel
  have hlength : (sampleConfig.scripts sampleFiles).length = 2 := by decide +kernel
  have hnone : missingConfig.scripts sampleFiles = [] := by decide +kernel
  have hall : moodyEngine.failing 0 (missingConfig.scripts sampleFiles) = [] := by
    rw [hnone]
    rfl
  refine ⟨hprompt, ?_, ?_, ?_⟩
  · have hsome : moodyEngine.failing 0 (sampleConfig.scripts sampleFiles) ≠ [] := by
      rw [hfailing]
      exact List.cons_ne_nil "B" []
    rw [hbroken.names load_sampleConfig setsUp_sampleConfig ConfigFile.registers_scripts hsome,
      hfailing, hlength]
    decide +kernel
  · exact hmissing.success_iff.mpr ⟨missingConfig, missingConfig.scripts sampleFiles,
      load_missingConfig, setsUp_missingConfig, ConfigFile.registers_scripts, hall⟩
  · rw [hmissing.counts load_missingConfig setsUp_missingConfig ConfigFile.registers_scripts hall,
      hnone]
    decide +kernel

/-- Success does not mean that every file that is listed could be read. -/
theorem not_forall_readable_of_success :
    ¬ ∀ (read : FileReader) (path : String) (jsonLogs : Bool) (config : ConfigFile)
      (entry : ComponentEntry), ConfigFile.load read path = .ok config →
      entry ∈ config.components →
      (perform (Script.engine true) () read ⟨path, jsonLogs, .check⟩).exitCode = 0 →
      ∃ text, readSource read entry.path = .ok text := by
  intro hall
  have hnone : missingConfig.scripts sampleFiles = [] := by decide +kernel
  obtain ⟨events, hperform⟩ := exists_perform_eq (Script.prompt_engine true) () false
    load_missingConfig setsUp_missingConfig
  have hsuccess : (perform (Script.engine true) () sampleFiles
      ⟨"missing.toml", false, .check⟩).exitCode = 0 := by
    rw [hperform, exitCode_summary, hnone]
    rfl
  obtain ⟨text, htext⟩ := hall sampleFiles "missing.toml" false missingConfig ⟨"C", "c.js"⟩
    load_missingConfig (List.mem_singleton_self _) hsuccess
  have hmissing : readSource sampleFiles "c.js" = .error (.unreadable "c.js" .notFound) := rfl
  cases hmissing.symm.trans htext

end CommandLine

end ServerRender
