import ServerRender.CommandLine.Outcome
import ServerRender.Proofs.CommandLine.Check
import ServerRender.Proofs.Renderer.Repetition

/-!
# Renders at once

The program may be told to make a render many times at once.  It prints the markup of the
first render that succeeds and counts those that fail, so an answer that differs from the
others could show, and so could the order in which the answers come.  The main statement is
that neither does: what is printed, and whether and why the task fails, is the same for any
number of renders, any size of the pool and any order of their steps.
-/

namespace ServerRender.CommandLine

variable {World Environment : Type} {engine : Engine World Environment}
variable {loads : String → Verdict Unit} {evals : String → String → Verdict Json}
variable {read : FileReader} {path other : String}

def concludeAnswer (component : String) : Option Answer → String × Option Failure
  | some (.markup text) => (text ++ "\n", none)
  | _ => ("", some ⟨"every render of " ++ component ++ " failed", []⟩)

/-- Answers that agree are told as one. -/
theorem concludeRenders_of_same {component : String} {result : Option Answer}
    {answers : List (Except RenderError Answer)} (hsome : answers ≠ [])
    (hsame : ∀ answer ∈ answers, answer.toOption = result) :
    concludeRenders component answers = concludeAnswer component result := by
  obtain ⟨first, hfirst⟩ := List.exists_mem_of_ne_nil answers hsome
  have hresult := hsame first hfirst
  simp only [concludeRenders]
  split
  · next text hfound =>
      obtain ⟨answer, hmem, hmarkup⟩ := List.exists_of_findSome?_eq_some hfound
      have hanswer : answer = .ok (.markup text) := by
        split at hmarkup
        · rw [Option.some.inj hmarkup]
        · contradiction
      have hall : result = some (.markup text) := by
        rw [← hsame answer hmem, hanswer]
        rfl
      rw [hall, if_pos]
      · rfl
      · rw [List.length_eq_zero_iff, List.filter_eq_nil_iff]
        intro other hother hfails
        have hsuccess := hsame other hother
        cases other with
        | ok value => contradiction
        | error error => exact nomatch hsuccess.trans hall
  · next hnone =>
      have hother := List.findSome?_eq_none_iff.1 hnone first hfirst
      rw [← hresult]
      cases first with
      | error error => rfl
      | ok answer =>
          cases answer with
          | markup text => contradiction
          | loaded now => rfl

def awaitNext (engine : Engine World Environment) (first : Nat) :
    Renderer World Environment × List (Except RenderError Answer) × List Log.Event × Nat →
      Nat → Renderer World Environment × List (Except RenderError Answer) × List Log.Event × Nat :=
  fun (renderer, answers, events, time) index =>
    let (renderer, more, time) := renderer.await engine (first + index) 4 time
    (renderer, answers ++ (renderer.answer? (first + index)).toList, events ++ more, time)

theorem callAtOnce_of_foldl (renderer : Renderer World Environment) (call : Call)
    {last : Renderer World Environment} {count time : Nat}
    {answers : List (Except RenderError Answer)} {events : List Log.Event}
    (hfold : (List.range count).foldl (awaitNext engine renderer.jobs.length)
      ((List.range count).foldl (fun renderer _ => renderer.accept call) renderer, [], [], 0) =
        (last, answers, events, time)) :
    callAtOnce engine renderer call count = (last, answers, events) := by
  unfold awaitNext at hfold
  simp only [callAtOnce]
  rw [hfold]

theorem answer?_of_stages {renderer : Renderer World Environment}
    {answers : List (Except RenderError Answer)}
    (hstages : renderer.jobs.map Job.stage = answers.map .finished) {job : Nat}
    (hlt : job < answers.length) : renderer.answer? job = some answers[job] := by
  have hstage : (renderer.jobs[job]?).map Job.stage = some (.finished answers[job]) := by
    rw [← List.getElem?_map, hstages, List.getElem?_map, List.getElem?_eq_getElem hlt]
    rfl
  rw [Renderer.answer?, hstage]

/-- Once a run has finished all calls, waiting for them one after the other collects their
answers. -/
theorem exists_foldl_awaitNext {renderer : Renderer World Environment}
    {answers : List (Except RenderError Answer)}
    (hstages : (renderer.run engine 0).1.jobs.map Job.stage = answers.map .finished)
    {count : Nat} (hle : count ≤ answers.length) :
    ∃ later events, (List.range count).foldl (awaitNext engine 0) (renderer, [], [], 0) =
        (later, answers.take count, events, 0) ∧
      (later.run engine 0).1.jobs.map Job.stage = answers.map .finished := by
  induction count with
  | zero => exact ⟨renderer, [], rfl, hstages⟩
  | succ count ih =>
      obtain ⟨later, events, hfold, hlater⟩ := ih (Nat.le_of_succ_le hle)
      have hanswer := answer?_of_stages hlater hle
      have hawait : later.await engine (0 + count) 4 0 =
          ((later.run engine 0).1, (later.run engine 0).2, 0) := by
        simp [Renderer.await, hanswer]
      have hfinished : ∀ state ∈ (later.run engine 0).1.jobs, state.IsFinished := by
        intro state hmem
        have hstage : state.stage ∈ (later.run engine 0).1.jobs.map Job.stage :=
          List.mem_map_of_mem hmem
        rw [hlater] at hstage
        obtain ⟨answer, -, hsame⟩ := List.mem_map.1 hstage
        exact ⟨answer, hsame.symm⟩
      refine ⟨(later.run engine 0).1, events ++ (later.run engine 0).2, ?_, ?_⟩
      · rw [List.range_succ, List.foldl_append, hfold, List.foldl_cons, List.foldl_nil]
        simp only [awaitNext, hawait]
        rw [Nat.zero_add, hanswer, List.take_succ_eq_append_getElem hle]
        rfl
      · rw [Renderer.jobs_run_of_finished hfinished]
        exact hlater

/-- Calls that are made at once to a renderer that was just set up are all answered. -/
theorem exists_answers_of_callAtOnce {setup : Setup} {sources : Sources}
    {installation : Installation Environment} (hprompt : engine.NeverWaits) (world : World)
    (hbuild : Installation.build setup sources = .ok installation) (call : Call) (count : Nat) :
    ∃ final, Renderer.Repeats engine call ⟨world, [installation], []⟩ final ∧
      final.jobs.length = count ∧
      final.Answers (callAtOnce engine ⟨world, [installation], []⟩ call count).2.1 := by
  obtain ⟨hserving, hcount⟩ := Renderer.Serving.acceptAll
    (Renderer.Serving.first engine world hbuild call) (List.range count)
  generalize haccepted : (List.range count).foldl
    (fun (renderer : Renderer World Environment) _ => renderer.accept call)
    ⟨world, [installation], []⟩ = accepted at hserving hcount
  obtain ⟨answers, hstages, hanswers⟩ := hserving.exists_answers hprompt hbuild 0
  have hlength : answers.length = count := by
    have hsame := congrArg List.length hstages
    simpa [Renderer.length_jobs_run, hcount] using hsame.symm
  obtain ⟨last, events, hfold, -⟩ := exists_foldl_awaitNext hstages (Nat.le_of_eq hlength.symm)
  rw [← hlength, List.take_length, hlength, ← haccepted] at hfold
  refine ⟨(accepted.run engine 0).1, (hserving.run 0).repeated, ?_, ?_⟩
  · rw [Renderer.length_jobs_run, hcount]
    simp
  · rw [callAtOnce_of_foldl ⟨world, [installation], []⟩ call hfold]
    exact hanswers

/-! ## Configurations that differ in the pool -/

/-- The file at the other path configures the same, or the same but for the pool. -/
inductive SameButPool (read : FileReader) (path : String) : String → Prop
  | same : SameButPool read path path
  | pool {other : String} {config : ConfigFile} {pool : PoolOptions}
      (hconfig : ConfigFile.load read path = .ok config)
      (hother : ConfigFile.load read other =
        .ok { config with renderer := { config.renderer with pool } })
      (hroom : config.renderer.pool.size = 0 ↔ pool.size = 0) : SameButPool read path other

/-- Installations that differ in their pools are built from the same cache and template, or
fail to be built for the same reason. -/
theorem build_cases_of_pool (text : String) (config : RendererConfig) {pool : PoolOptions}
    (sources : Sources) (hroom : config.pool.size = 0 ↔ pool.size = 0) :
    (∃ error, (Installation.build ⟨text, "", config⟩ sources :
        Except RenderError (Installation Environment)) = .error error ∧
      (Installation.build ⟨text, "", { config with pool }⟩ sources :
        Except RenderError (Installation Environment)) = .error error) ∨
    ∃ installation changed : Installation Environment,
      Installation.build ⟨text, "", config⟩ sources = .ok installation ∧
      Installation.build ⟨text, "", { config with pool }⟩ sources = .ok changed ∧
      changed.cache = installation.cache ∧ changed.template = installation.template := by
  cases htemplate : Template.parse text with
  | error problem =>
      exact .inl ⟨_, by simp only [Installation.build, htemplate]; rfl,
        by simp only [Installation.build, htemplate]; rfl⟩
  | ok template =>
      by_cases hsize : config.pool.size = 0
      · have hfails := PoolOptions.validate_of_size_eq hsize
        have hchanged := PoolOptions.validate_of_size_eq (hroom.1 hsize)
        exact .inl ⟨_, by simp only [Installation.build, htemplate, hfails]; rfl,
          by simp only [Installation.build, htemplate, hchanged]; rfl⟩
      · have hvalid := PoolOptions.validate_eq_ok_iff.2 hsize
        have hchanged := PoolOptions.validate_eq_ok_iff.2 fun hzero => hsize (hroom.2 hzero)
        exact .inr ⟨_, _, by simp only [Installation.build, htemplate, hvalid]; rfl,
          by simp only [Installation.build, htemplate, hchanged]; rfl, by rfl, by rfl⟩

theorem prepare_of_load {config : ConfigFile} (world : World)
    (hload : ConfigFile.load read path = .ok config) :
    (prepare world read path : Except Failure (Renderer World Environment)) =
      ((config.wrapper.load read).mapError fun error =>
        ⟨"Failed to load wrapper template", Failure.causesOf error⟩).bind fun text =>
        ((Installation.build ⟨text, "", config.renderer⟩ (readSources read config)).map
          fun installation => ⟨world, [installation], []⟩).mapError Failure.ofRenderError := by
  simp only [prepare, hload, Except.mapError, bind, Except.bind, Renderer.create]
  cases config.wrapper.load read with
  | error error => rfl
  | ok text =>
      simp only
      cases (Installation.build ⟨text, "", config.renderer⟩ (readSources read config) :
        Except RenderError (Installation Environment)) <;> rfl

theorem SameButPool.cases (hsame : SameButPool read path other) :
    (other = path ∧ ∃ error, ConfigFile.load read path = .error error) ∨
    ∃ (config : ConfigFile) (pool : PoolOptions), ConfigFile.load read path = .ok config ∧
      ConfigFile.load read other =
        .ok { config with renderer := { config.renderer with pool } } ∧
      (config.renderer.pool.size = 0 ↔ pool.size = 0) := by
  cases hsame with
  | pool hconfig hother hroom => exact .inr ⟨_, _, hconfig, hother, hroom⟩
  | same =>
      cases hload : ConfigFile.load read path with
      | error error => exact .inl ⟨rfl, error, rfl⟩
      | ok config => exact .inr ⟨config, config.renderer.pool, rfl, rfl, Iff.rfl⟩

/-- Renderers that are prepared from configurations which differ in the pool work with the
same cache and the same template; or none can be prepared, for the same reason. -/
theorem prepare_cases_of_sameButPool (hsame : SameButPool read path other) :
    (∃ failure,
      (∀ world, (prepare world read path : Except Failure (Renderer World Environment)) =
        .error failure) ∧
      ∀ world, (prepare world read other : Except Failure (Renderer World Environment)) =
        .error failure) ∨
    ∃ (setup changedSetup : Setup) (sources : Sources)
      (installation changed : Installation Environment),
      Installation.build setup sources = .ok installation ∧
      Installation.build changedSetup sources = .ok changed ∧
      changed.cache = installation.cache ∧ changed.template = installation.template ∧
      (∀ world : World, prepare world read path = .ok ⟨world, [installation], []⟩) ∧
      ∀ world : World, prepare world read other = .ok ⟨world, [changed], []⟩ := by
  rcases hsame.cases with ⟨rfl, error, hload⟩ | ⟨config, pool, hconfig, hother, hroom⟩
  · refine .inl ⟨⟨"Failed to load " ++ other, Failure.causesOf error⟩, ?_, ?_⟩ <;>
      simp [prepare, hload, Except.mapError, bind, Except.bind]
  have hprepare := fun world => @prepare_of_load World Environment read path config world hconfig
  have hchange := fun world => @prepare_of_load World Environment read other _ world hother
  cases htext : config.wrapper.load read with
  | error error =>
      refine .inl ⟨⟨"Failed to load wrapper template", Failure.causesOf error⟩, ?_, ?_⟩ <;>
        simp [hprepare, hchange, htext, Except.mapError, Except.bind]
  | ok text =>
      have hsources : readSources read { config with
          renderer := { config.renderer with pool } } = readSources read config := rfl
      rcases @build_cases_of_pool Environment text config.renderer pool
        (readSources read config) hroom with
        ⟨error, hbuild, hchanged⟩ |
          ⟨installation, changed, hbuild, hchanged, hcache, htemplate⟩
      · refine .inl ⟨Failure.ofRenderError error, ?_, ?_⟩ <;>
          simp [hprepare, hchange, htext, hsources, hbuild, hchanged, Except.mapError,
            Except.bind, Except.map]
      · refine .inr ⟨_, _, _, installation, changed, hbuild, hchanged, hcache, htemplate, ?_,
          ?_⟩ <;>
          simp [hprepare, hchange, htext, hsources, hbuild, hchanged, Except.mapError,
            Except.bind, Except.map]

/-! ## Ends of a task -/

def malformedProps : String × Option Failure :=
  ("", some ⟨"--props must be valid JSON", ["expected one JSON value at line 1"]⟩)

/-- How a task that makes a render so many times at once may end: what it prints, and its
failure.  The renders take their steps in any order, they get their contexts whenever the
pool has some for them, and the answers come in any order.  Nobody is refused a context. -/
inductive RenderEnds (engine : Engine World Environment) (read : FileReader)
    (path component url props : String) (concurrency : Nat) : String × Option Failure → Prop
  | unprepared {world : World} {failure : Failure}
      (hprepare : (prepare world read path : Except Failure (Renderer World Environment)) =
        .error failure) :
      RenderEnds engine read path component url props concurrency ("", some failure)
  | malformed {world : World} {renderer : Renderer World Environment}
      (hprepare : prepare world read path = .ok renderer) (hprops : Json.read? props = none) :
      RenderEnds engine read path component url props concurrency malformedProps
  | rendered {world : World} {renderer final : Renderer World Environment} {value : Json}
      {answers : List (Except RenderError Answer)}
      (hprepare : prepare world read path = .ok renderer)
      (hprops : Json.read? props = some value)
      (hrepeats : renderer.Repeats engine (.render component url (Props.json value).toText) final)
      (hcount : final.jobs.length = max concurrency 1) (hanswers : final.Answers answers) :
      RenderEnds engine read path component url props concurrency
        (concludeRenders component answers)

section Ends

variable {component url props : String} {concurrency otherConcurrency : Nat}
variable {outcome otherOutcome : String × Option Failure}

/-- Renders that were all answered are told as the plain way is. -/
theorem concludeRenders_of_answers {setup : Setup} {sources : Sources}
    {installation : Installation Environment} {world : World}
    {final : Renderer World Environment} {answers : List (Except RenderError Answer)}
    (hstateless : engine.Stateless loads evals)
    (hbuild : Installation.build setup sources = .ok installation)
    (hrepeats : Renderer.Repeats engine (.render component url props) ⟨world, [installation], []⟩
      final)
    (hcount : final.jobs.length = max concurrency 1) (hanswers : final.Answers answers)
    (start : World) :
    concludeRenders component answers =
      concludeAnswer component (plainAnswer? engine start installation.cache
        installation.template component url props) := by
  refine concludeRenders_of_same ?_
    (Renderer.toOption_of_answers hstateless world hbuild hrepeats hanswers start)
  rintro rfl
  have hlength := hanswers.answered.length_eq
  rw [List.length_map, hcount, List.map_nil, List.length_nil] at hlength
  omega

def plainEnd (engine : Engine World Environment) (start : World) (cache : CodeCache)
    (template : Template) (component url props : String) : String × Option Failure :=
  match Json.read? props with
  | none => malformedProps
  | some value =>
    concludeAnswer component
      (plainAnswer? engine start cache template component url (Props.json value).toText)

theorem RenderEnds.eq_failure {failure : Failure}
    (hfails : ∀ world, (prepare world read path :
      Except Failure (Renderer World Environment)) = .error failure)
    (hends : RenderEnds engine read path component url props concurrency outcome) :
    outcome = ("", some failure) := by
  cases hends with
  | unprepared hprepare => rw [Except.error.inj (hprepare.symm.trans (hfails _))]
  | malformed hprepare hprops => exact nomatch hprepare.symm.trans (hfails _)
  | rendered hprepare => exact nomatch hprepare.symm.trans (hfails _)

theorem RenderEnds.eq_plainEnd {setup : Setup} {sources : Sources}
    {installation : Installation Environment} (hstateless : engine.Stateless loads evals)
    (hbuild : Installation.build setup sources = .ok installation)
    (hprepared : ∀ world : World, prepare world read path = .ok ⟨world, [installation], []⟩)
    (hends : RenderEnds engine read path component url props concurrency outcome)
    (start : World) :
    outcome =
      plainEnd engine start installation.cache installation.template component url props := by
  cases hends with
  | unprepared hprepare => exact nomatch hprepare.symm.trans (hprepared _)
  | malformed hprepare hprops => rw [plainEnd, hprops]
  | rendered hprepare hprops hrepeats hcount hanswers =>
      obtain rfl := Except.ok.inj (hprepare.symm.trans (hprepared _))
      rw [plainEnd, hprops]
      exact concludeRenders_of_answers hstateless hbuild hrepeats hcount hanswers start

theorem RenderEnds.eq_of_sameButPool (hstateless : engine.Stateless loads evals)
    (hsame : SameButPool read path other)
    (hends : RenderEnds engine read path component url props concurrency outcome)
    (hother : RenderEnds engine read other component url props otherConcurrency otherOutcome) :
    outcome = otherOutcome := by
  have hstart : Nonempty World := by
    cases hends with
    | @unprepared world | @malformed world | @rendered world => exact ⟨world⟩
  obtain ⟨start⟩ := hstart
  rcases @prepare_cases_of_sameButPool World Environment read path other hsame with
    ⟨failure, hfails, hotherFails⟩ |
      ⟨setup, changedSetup, sources, installation, changed, hbuild, hchanged, hcache,
        htemplate, hprepared, hotherPrepared⟩
  · rw [hends.eq_failure hfails, hother.eq_failure hotherFails]
  · rw [hends.eq_plainEnd hstateless hbuild hprepared start,
      hother.eq_plainEnd hstateless hchanged hotherPrepared start, hcache, htemplate]

end Ends

def Outcome.told (outcome : Outcome) : String × Option Failure :=
  (outcome.output, outcome.failure)

/-- What the task does is one of the ways in which it may end. -/
theorem renderEnds_perform (hprompt : engine.NeverWaits) (world : World) (read : FileReader)
    (path : String) (jsonLogs : Bool) (component url props : String) (concurrency : Nat) :
    RenderEnds engine read path component url props concurrency
      (perform engine world read
        ⟨path, jsonLogs, .render component url props concurrency⟩).told := by
  simp only [perform]
  rcases @prepare_cases_of_sameButPool World Environment read path path .same with
    ⟨failure, hfails, -⟩ |
      ⟨setup, -, sources, installation, -, hbuild, -, -, -, hprepared, -⟩
  · rw [hfails world]
    exact .unprepared (hfails world)
  · rw [hprepared world]
    simp only [renderTask]
    split
    · next hprops => exact .malformed (hprepared world) hprops
    · next value hprops =>
        obtain ⟨final, hrepeats, hcount, hanswers⟩ := exists_answers_of_callAtOnce hprompt world
          hbuild (.render component url (Props.json value).toText) (max concurrency 1)
        exact .rendered (hprepared world) hprops hrepeats hcount hanswers

/-- Concurrency does not show.  With an engine that keeps nothing in mind between evaluations,
a render that is made any number of times at once prints the same and ends in the same way,
whatever the size of the pool is and in whatever order the renders take their steps, get their
contexts and come to their ends, as long as each of them gets a context: no wait for one ends
with the time up, and there is a thread for each context that is to be made.  If the engine
keeps nobody waiting, the task always comes to such an end, and so it tells the same as the
task that makes the render once. -/
theorem concurrency_does_not_show (hstateless : engine.Stateless loads evals)
    (hsame : SameButPool read path other) (component url props : String) :
    (∀ {concurrency otherConcurrency : Nat} {outcome otherOutcome : String × Option Failure},
      RenderEnds engine read path component url props concurrency outcome →
      RenderEnds engine read other component url props otherConcurrency otherOutcome →
      outcome = otherOutcome) ∧
    (engine.NeverWaits → ∀ (world otherWorld : World) (jsonLogs otherLogs : Bool)
      (concurrency : Nat) (outcome alone : Outcome),
      perform engine world read
        ⟨path, jsonLogs, .render component url props concurrency⟩ = outcome →
      perform engine otherWorld read ⟨other, otherLogs, .render component url props 1⟩ = alone →
      RenderEnds engine read path component url props concurrency outcome.told ∧
        outcome.output = alone.output ∧ outcome.exitCode = alone.exitCode ∧
        outcome.failure.map Failure.report = alone.failure.map Failure.report) := by
  refine ⟨fun hends hother => hends.eq_of_sameButPool hstateless hsame hother, ?_⟩
  rintro hprompt world otherWorld jsonLogs otherLogs concurrency outcome alone rfl rfl
  have hends := renderEnds_perform hprompt world read path jsonLogs component url props
    concurrency
  have hother := renderEnds_perform hprompt otherWorld read other otherLogs component url props 1
  obtain ⟨houtput, hfailure⟩ :=
    Prod.mk.inj (hends.eq_of_sameButPool hstateless hsame hother)
  refine ⟨hends, houtput, ?_, ?_⟩
  · rw [Outcome.exitCode, Outcome.exitCode, hfailure]
  · rw [hfailure]

/-- Two configurations of one component: one with the usual pool, one whose pool has room for a
single context. -/
def narrowFiles : FileReader
  | "prerender.toml" => .ok "components = [[\"A\", \"a.js\"]]\n[wrapper]\ntemplate = \"\"\n"
  | "narrow.toml" =>
    .ok ("components = [[\"A\", \"a.js\"]]\n[wrapper]\ntemplate = \"\"\n" ++
      "[renderer.pool]\nsize = 1\n")
  | "a.js" => .ok "plain"
  | _ => .error .notFound

theorem sameButPool_narrowFiles : SameButPool narrowFiles "prerender.toml" "narrow.toml" :=
  @SameButPool.pool _ _ _ { sampleConfig with components := [⟨"A", "a.js"⟩] } ⟨1, 20⟩
    (load_of_toOption (by decide +kernel)) (load_of_toOption (by decide +kernel)) (by decide)

/-- Three renders at once print what one render prints that has to wait for nobody, and so do
three renders that have to share one context. -/
theorem three_at_once_print_once :
    Session.echoEngine.NeverWaits ∧
      RenderEnds Session.echoEngine narrowFiles "prerender.toml" "A" "/" "1" 3
        ((CodeBundle.assemble "A" "" "plain" 1).source ++ "\n", none) ∧
      RenderEnds Session.echoEngine narrowFiles "narrow.toml" "A" "/" "1" 3
        ((CodeBundle.assemble "A" "" "plain" 1).source ++ "\n", none) := by
  have hprompt : Session.echoEngine.NeverWaits := fun world gate => rfl
  have halone : (perform Session.echoEngine () narrowFiles
      ⟨"narrow.toml", false, .render "A" "/" "1" 1⟩).told =
        ((CodeBundle.assemble "A" "" "plain" 1).source ++ "\n", none) := by
    decide +kernel
  obtain ⟨hany, hperform⟩ := concurrency_does_not_show Session.stateless_echoEngine
    sameButPool_narrowFiles "A" "/" "1"
  have hnarrow := renderEnds_perform hprompt () narrowFiles "narrow.toml" false "A" "/" "1" 3
  have hwide := (hperform hprompt () () false false 3 _ _ rfl rfl).1
  have hone := renderEnds_perform hprompt () narrowFiles "narrow.toml" false "A" "/" "1" 1
  rw [halone] at hone
  have hwidth := hany hwide hone
  rw [hwidth] at hwide
  rw [← hany hwide hnarrow] at hnarrow
  exact ⟨hprompt, hwide, hnarrow⟩

end ServerRender.CommandLine
