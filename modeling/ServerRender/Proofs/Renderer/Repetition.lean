import ServerRender.Proofs.Renderer.Progress
import ServerRender.Proofs.Renderer.Transparency
import ServerRender.Proofs.Renderer.Undisturbed

/-!
# One call, many times

A renderer that was just set up is asked for the same render any number of times, and for
nothing else.  The renders compete for contexts, load the bundle or find it loaded, and come
to their ends in any order.  With an engine that keeps nothing in mind between evaluations
they cannot be told apart from outside: all of them have the markup that the plain way comes
to, or none has any.
-/

namespace ServerRender

variable {World Environment : Type} {engine : Engine World Environment}
variable {loads : String → Verdict Unit} {evals : String → String → Verdict Json}

/-- A load or an evaluation that fails in one state of the world fails in any other. -/
theorem Engine.Stateless.toOption_renderPlainly (hstateless : engine.Stateless loads evals)
    (start other : World) (source script : String) :
    (engine.renderPlainly start source script).toOption =
      (engine.renderPlainly other source script).toOption := by
  have hfails : ∀ world, (¬ ∃ created fresh, engine.create world = (created, .value fresh)) →
      (engine.renderPlainly world source script).toOption = none := by
    intro world hnone
    cases hcreate : engine.create world with
    | mk created verdict =>
        cases verdict with
        | value fresh => exact absurd ⟨created, fresh, hcreate⟩ hnone
        | failure error => simp [renderPlainly, hcreate, Verdict.followedBy, Except.toOption]
        | panic => simp [renderPlainly, hcreate, Verdict.followedBy, Except.toOption]
  by_cases hcreates : ∃ created fresh, engine.create start = (created, .value fresh)
  · obtain ⟨created, fresh, hcreate⟩ := hcreates
    rw [hstateless.renderPlainly_congr hcreate start other]
  · have hothers : ¬ ∃ created fresh, engine.create other = (created, .value fresh) := by
      rintro ⟨created, fresh, hcreate⟩
      exact hcreates (hstateless.creates hcreate start)
    rw [hfails start hcreates, hfails other hothers]

theorem toOption_plainAnswer (world : World) (template : Template) (bundle : CodeBundle)
    (component urlPath props : String) :
    (plainAnswer engine world template bundle component urlPath props).toOption =
      (engine.renderPlainly world bundle.source
        (template.wrapperScript ⟨component, urlPath, props⟩)).toOption.map .markup := by
  rw [plainAnswer]
  cases engine.renderPlainly world bundle.source
    (template.wrapperScript ⟨component, urlPath, props⟩) with
  | ok markup => rfl
  | error cause => cases cause <;> rfl

/-- What the plain way comes to for a component of a cache, if that is an answer. -/
def plainAnswer? (engine : Engine World Environment) (world : World) (cache : CodeCache)
    (template : Template) (component urlPath props : String) : Option Answer :=
  (cache.bundles.get? component).bind fun bundle =>
    (plainAnswer engine world template bundle component urlPath props).toOption

/-! ## Repeating a call -/

namespace Renderer

/-- What may happen next while a renderer is asked for nothing but one call. -/
inductive Proceeds (engine : Engine World Environment) (call : Call)
    (renderer : Renderer World Environment) : Renderer World Environment → Prop
  | accept : Proceeds engine call renderer (renderer.accept call)
  | work {time job : Nat} {next : Renderer World Environment} {events : List Log.Event}
      (hstep : renderer.step engine time job = some (next, events)) :
      Proceeds engine call renderer next
  | serve {place : Nat} {installation : Installation Environment}
      {action : Pool.Action (ExecutionContext Environment)}
      {desk : Pool.Desk (ExecutionContext Environment)} {events : List Log.Event}
      (hinstallation : renderer.installations[place]? = some installation)
      (hserves : Session.Serves installation.desk action)
      (hstep : installation.desk.step action = some (desk, events)) :
      Proceeds engine call renderer (renderer.setDesk place desk)
  | disturb (world : World) : Proceeds engine call renderer { renderer with world }

/-- The call was made any number of times, and all took their steps in any order. -/
def Repeats (engine : Engine World Environment) (call : Call) :
    Renderer World Environment → Renderer World Environment → Prop :=
  Relation.ReflTransGen (Proceeds engine call)

/-- No call was refused a context, all are finished, and these are the answers in some order. -/
structure Answers (renderer : Renderer World Environment)
    (answers : List (Except RenderError Answer)) : Prop where
  lent : ∀ index caller error, renderer.phaseOf? index caller ≠ some (.refused error)
  answered : (renderer.jobs.map Job.stage).Perm (answers.map .finished)

end Renderer

namespace Session

variable {session next : Session World Environment} {action : Action World Environment}
variable {cache : CodeCache} {template : Template} {call : Call}

def Action.Repeats (call : Call) : Action World Environment → Prop
  | .accept other => other = call
  | .work _ _ => True
  | .serve _ _ => True
  | .disturb _ => True
  | _ => False

theorem exists_turn_of_proceeds {renderer : Renderer World Environment}
    (hproceeds : session.renderer.Proceeds engine call renderer) :
    ∃ action next, Turn engine session action next ∧ action.Repeats call ∧
      next.renderer = renderer := by
  cases hproceeds with
  | accept => exact ⟨_, _, .accept call, rfl, rfl⟩
  | work hstep => exact ⟨_, _, .work hstep, trivial, rfl⟩
  | serve hinstallation hserves hstep =>
      exact ⟨_, _, .serve hinstallation hserves hstep, trivial, rfl⟩
  | disturb world => exact ⟨_, _, .disturb world, trivial, rfl⟩

/-- All calls of a session are the same, and there is one cache and one template for them. -/
structure Uniform (cache : CodeCache) (template : Template) (call : Call)
    (session : Session World Environment) : Prop where
  caches_eq : session.renderer.caches = [cache]
  templates_eq : session.renderer.templates = [template]
  call_eq : ∀ state ∈ session.renderer.jobs, state.call = call
  taken : ∀ {job : Nat} {trace : Trace} {attempt : Attempt},
    session.traces[job]? = some trace → attempt ∈ trace.attempts →
    cache.bundles.get? call.component = some attempt.bundle
  missing : ∀ {job : Nat} {state : Job Environment} {trace : Trace}
    {result : Except RenderError Answer}, session.renderer.jobs[job]? = some state →
    session.traces[job]? = some trace → state.stage = .finished result →
    trace.attempts = [] → cache.bundles.get? call.component = none

theorem Uniform.cache_eq (huniform : Uniform cache template call session) {index : Nat}
    {installation : Installation Environment}
    (hinstallation : session.renderer.installations[index]? = some installation) :
    installation.cache = cache := by
  have hcache := List.mem_of_getElem? (Renderer.cache_of_installation hinstallation)
  rw [huniform.caches_eq] at hcache
  exact List.mem_singleton.1 hcache

/-- A call that ends without an attempt has not found its bundle. -/
theorem get?_of_finished {renderer later : Renderer World Environment} {job : Nat}
    {before after : Job Environment} {events : List Log.Event}
    {result : Except RenderError Answer}
    (hstride : Renderer.Stride engine renderer job before after later events)
    (hfinished : after.stage = .finished result) :
    (∃ (index : Nat) (installation : Installation Environment),
      renderer.installations[index]? = some installation ∧
      installation.cache.bundles.get? after.call.component = none) ∨
    ∃ attempt, before.stage.attempt? = some attempt := by
  cases hstride with
  | missing hinstallation hget => exact .inl ⟨_, _, hinstallation, hget⟩
  | refused hphase hfinal => exact .inr ⟨_, rfl⟩
  | leave hinstallation hmove => exact .inr ⟨_, rfl⟩
  | endWork hgates hinstallation => exact .inr ⟨_, rfl⟩
  | _ => contradiction

namespace Uniform

theorem start {world : World} {setup : Setup} {sources : Sources}
    {installation : Installation Environment} (call : Call)
    (hstart : Session.start world setup sources = .ok session)
    (hbuild : Installation.build setup sources = .ok installation) :
    Uniform installation.cache installation.template call session := by
  obtain ⟨other, hother, rfl⟩ := start_eq_ok hstart
  obtain rfl := Except.ok.inj (hother.symm.trans hbuild)
  exact ⟨rfl, rfl, by simp, by simp, by simp⟩

theorem caches_of_turn (huniform : Uniform cache template call session)
    (hturn : Turn engine session action next) (hrepeats : action.Repeats call) :
    next.renderer.caches = [cache] ∧ next.renderer.templates = [template] := by
  rw [← huniform.caches_eq, ← huniform.templates_eq]
  cases hturn with
  | accept other => exact ⟨rfl, rfl⟩
  | work hstep =>
      obtain ⟨before, after, -, hstride⟩ := Renderer.exists_stride_of_step hstep
      exact ⟨hstride.caches_eq, hstride.templates_eq⟩
  | serve hinstallation hserves hstep =>
      exact ⟨Renderer.caches_setDesk, Renderer.templates_setDesk⟩
  | disturb world => exact ⟨rfl, rfl⟩
  | _ => exact hrepeats.elim

theorem call_of_turn (huniform : Uniform cache template call session)
    (hturn : Turn engine session action next) (hrepeats : action.Repeats call) :
    ∀ state ∈ next.renderer.jobs, state.call = call := by
  intro state hmem
  cases hturn with
  | accept other =>
      rcases List.mem_append.1 hmem with hold | hnew
      · exact huniform.call_eq state hold
      · rw [List.mem_singleton.1 hnew]
        exact hrepeats
  | work hstep =>
      obtain ⟨before, after, hbefore, hstride⟩ := Renderer.exists_stride_of_step hstep
      rw [hstride.jobs_eq hbefore] at hmem
      rcases List.mem_or_eq_of_mem_set hmem with hold | rfl
      · exact huniform.call_eq state hold
      · exact hstride.call_eq.trans (huniform.call_eq before (List.mem_of_getElem? hbefore))
  | _ => exact huniform.call_eq state hmem

theorem taken_of_turn (huniform : Uniform cache template call session)
    (hturn : Turn engine session action next) {job : Nat} {trace : Trace} {attempt : Attempt}
    (htrace : next.traces[job]? = some trace) (hmem : attempt ∈ trace.attempts) :
    cache.bundles.get? call.component = some attempt.bundle := by
  rcases attempt_cases_of_turn hturn htrace hmem with
    ⟨earlier, hearlier, hold⟩ | ⟨time, before, after, events, -, hbefore, hstride, hcheckout⟩
  · exact huniform.taken hearlier hold
  · obtain ⟨installation, -, hinstallation, hget, -⟩ :=
      hstride.exists_installation_of_checkout hcheckout
    rw [huniform.cache_eq hinstallation, hstride.call_eq,
      huniform.call_eq before (List.mem_of_getElem? hbefore)] at hget
    exact hget

theorem missing_of_turn (huniform : Uniform cache template call session)
    (hseated : session.Seated) (hturn : Turn engine session action next) {job : Nat}
    {state : Job Environment} {trace : Trace} {result : Except RenderError Answer}
    (hjob : next.renderer.jobs[job]? = some state) (htrace : next.traces[job]? = some trace)
    (hfinished : state.stage = .finished result) (hnone : trace.attempts = []) :
    cache.bundles.get? call.component = none := by
  rcases job_cases_of_turn hturn hjob with
    ⟨hother, hold⟩ | ⟨-, hentering⟩ | ⟨time, before, events, rfl, hbefore, hstride⟩
  · have hlt := hseated.length_traces ▸ (List.getElem?_eq_some_iff.1 hold).1
    have hearlier := List.getElem?_eq_getElem hlt
    obtain rfl := Option.some.inj ((trace_of_turn hturn hearlier hother).symm.trans htrace)
    exact huniform.missing hold hearlier hfinished hnone
  · rw [hentering] at hfinished
    contradiction
  · rcases get?_of_finished hstride hfinished with
      ⟨index, installation, hinstallation, hget⟩ | ⟨attempt, hattempt⟩
    · rw [huniform.cache_eq hinstallation, hstride.call_eq,
        huniform.call_eq before (List.mem_of_getElem? hbefore)] at hget
      exact hget
    · -- The call was in the middle of an attempt, which its trace still has.
      obtain ⟨rest, log, hcurrent⟩ := hseated.current hbefore hattempt
      obtain ⟨earlier, more, hearlier, -, rfl⟩ := trace_of_work hturn htrace
      obtain rfl := Option.some.inj (hcurrent.symm.trans hearlier)
      rw [hjob, Option.map_some, hfinished] at hnone
      exact nomatch hnone

theorem turn (huniform : Uniform cache template call session) (hseated : session.Seated)
    (hturn : Turn engine session action next) (hrepeats : action.Repeats call) :
    Uniform cache template call next where
  caches_eq := (huniform.caches_of_turn hturn hrepeats).1
  templates_eq := (huniform.caches_of_turn hturn hrepeats).2
  call_eq := huniform.call_of_turn hturn hrepeats
  taken := huniform.taken_of_turn hturn
  missing := huniform.missing_of_turn hseated hturn

end Uniform

/-- A renderer that was just set up has a session. -/
theorem exists_first_of_build {setup : Setup} {sources : Sources}
    {installation : Installation Environment} (world : World)
    (hbuild : Installation.build setup sources = .ok installation) (call : Call) :
    ∃ first : Session World Environment, Reachable engine first ∧
      first.renderer = ⟨world, [installation], []⟩ ∧
      Uniform installation.cache installation.template call first := by
  obtain ⟨first, hstart, hfirst⟩ : ∃ first : Session World Environment,
      Session.start world setup sources = .ok first ∧
        first.renderer = ⟨world, [installation], []⟩ := by
    simp [Session.start, Renderer.create, hbuild, bind, Except.bind, pure, Except.pure]
  exact ⟨first, ⟨world, setup, sources, first, hstart, .refl⟩, hfirst,
    .start call hstart hbuild⟩

/-- What happens to the renderer may happen in a session. -/
theorem exists_session_of_repeats {renderer final : Renderer World Environment}
    (hreach : Reachable engine session) (huniform : Uniform cache template call session)
    (hsame : session.renderer = renderer) (hrepeats : renderer.Repeats engine call final) :
    ∃ later, Reachable engine later ∧ later.renderer = final ∧
      Uniform cache template call later := by
  induction hrepeats with
  | refl => exact ⟨session, hreach, hsame, huniform⟩
  | tail _ hproceeds ih =>
      obtain ⟨between, hbetween, rfl, hearlier⟩ := ih
      obtain ⟨action, later, hturn, haction, hlater⟩ := exists_turn_of_proceeds hproceeds
      exact ⟨later, hbetween.trans (.single ⟨action, hturn⟩), hlater,
        hearlier.turn (seated_of_reachable hbetween) hturn haction⟩

/-- A call that has got what it asked the pools for answers what the plain way comes to. -/
theorem Uniform.toOption_eq {component urlPath props : String} {job : Nat}
    {state : Job Environment} {result : Except RenderError Answer}
    (hstateless : engine.Stateless loads evals) (hreach : Reachable engine session)
    (huniform : Uniform cache template (.render component urlPath props) session)
    (hlent : ∀ index caller error,
      session.renderer.phaseOf? index caller ≠ some (.refused error))
    (hjob : session.renderer.jobs[job]? = some state)
    (hfinished : state.stage = .finished result) (world : World) :
    result.toOption = plainAnswer? engine world cache template component urlPath props := by
  have hlt := (List.getElem?_eq_some_iff.1 hjob).1
  rw [← (seated_of_reachable hreach).length_traces] at hlt
  have htrace := List.getElem?_eq_getElem hlt
  have hfollows := (sound_of_reachable hstateless hreach).followed hjob htrace
  rw [hfinished] at hfollows
  have hends : session.Ends engine component urlPath props _ result :=
    hfollows component urlPath props (huniform.call_eq state (List.mem_of_getElem? hjob))
  have htaken : ∀ attempt ∈ session.traces[job].attempts,
      cache.bundles.get? component = some attempt.bundle :=
    fun _ hmem => huniform.taken htrace hmem
  have hmissing : session.traces[job].attempts = [] → cache.bundles.get? component = none :=
    huniform.missing hjob htrace hfinished
  generalize session.traces[job].attempts = attempts at hends htaken hmissing
  cases hends with
  | missing haway =>
      have hnone : attempts = [] := List.eq_nil_iff_forall_not_mem.2 fun attempt hmem =>
        hlent _ _ _ (haway attempt hmem)
      simp [plainAnswer?, hmissing hnone, Except.toOption]
  | refused haway hrefused => exact absurd hrefused (hlent _ _ _)
  | @served attempt rest found start haway hreturned htemplate =>
      have hmem := List.mem_of_getElem? htemplate
      rw [huniform.templates_eq] at hmem
      obtain rfl := List.mem_singleton.1 hmem
      rw [plainAnswer?, htaken attempt List.mem_cons_self, Option.bind_some,
        toOption_plainAnswer, toOption_plainAnswer, hstateless.toOption_renderPlainly start world]

end Session

namespace Renderer

variable {renderer final : Renderer World Environment}

/-- All answers to a call that is repeated are what the plain way comes to, in any state of
the world. -/
theorem toOption_of_answers {setup : Setup} {sources : Sources}
    {installation : Installation Environment} {component urlPath props : String}
    {answers : List (Except RenderError Answer)} (hstateless : engine.Stateless loads evals)
    (world : World) (hbuild : Installation.build setup sources = .ok installation)
    (hrepeats : Repeats engine (.render component urlPath props) ⟨world, [installation], []⟩
      final)
    (hanswers : final.Answers answers) (other : World) :
    ∀ answer ∈ answers, answer.toOption =
      plainAnswer? engine other installation.cache installation.template component urlPath
        props := by
  intro answer hmem
  obtain ⟨first, hreach, hfirst, hnone⟩ :=
    Session.exists_first_of_build world hbuild (.render component urlPath props)
  obtain ⟨later, hlater, rfl, huniform⟩ :=
    Session.exists_session_of_repeats hreach hnone hfirst hrepeats
  have hstage := hanswers.answered.mem_iff.2 (List.mem_map_of_mem hmem)
  obtain ⟨state, hstate, hfinished⟩ := List.mem_map.1 hstage
  obtain ⟨job, hjob⟩ := List.mem_iff_getElem?.1 hstate
  exact huniform.toOption_eq hstateless hlater hanswers.lent hjob hfinished other

/-! ## A run to the end -/

theorem repeats_servesOn {call : Call} {place : Nat} {installation : Installation Environment}
    {desk : Pool.Desk (ExecutionContext Environment)}
    (hinstallation : renderer.installations[place]? = some installation)
    (hserves : Session.ServesOn installation.desk desk) :
    renderer.Repeats engine call (renderer.setDesk place desk) := by
  induction hserves with
  | refl =>
      rw [setDesk_self hinstallation]
      exact .refl
  | @tail between last _ hstep ih =>
      obtain ⟨action, events, hserves, hstep⟩ := hstep
      have hserve : (renderer.setDesk place between).Proceeds engine call _ :=
        .serve (installation_setDesk hinstallation between) hserves hstep
      rw [setDesk_setDesk] at hserve
      exact ih.tail hserve

/-- A renderer with one installation whose pool has sent nobody away. -/
structure Serving (engine : Engine World Environment) (call : Call)
    (first renderer : Renderer World Environment) : Prop where
  repeated : first.Repeats engine call renderer
  length_eq : renderer.installations.length = 1
  welcoming : ∀ desk ∈ renderer.desks, desk.Welcoming

theorem Serving.first {setup : Setup} {sources : Sources}
    {installation : Installation Environment} (engine : Engine World Environment) (world : World)
    (hbuild : Installation.build setup sources = .ok installation) (call : Call) :
    Serving engine call ⟨world, [installation], []⟩ ⟨world, [installation], []⟩ where
  repeated := .refl
  length_eq := rfl
  welcoming := by
    intro desk hmem
    obtain ⟨size, hcreate⟩ := Session.exists_size_of_build hbuild
    obtain rfl := List.mem_singleton.1 hmem
    rw [hcreate]
    exact .create size

/-- The call is made once more for each entry of a list. -/
theorem Serving.acceptAll {first : Renderer World Environment} {call : Call}
    (hserving : Serving engine call first renderer) (entries : List Nat) :
    Serving engine call first (entries.foldl (fun renderer _ => renderer.accept call) renderer) ∧
      (entries.foldl (fun renderer _ => renderer.accept call) renderer).jobs.length =
        renderer.jobs.length + entries.length := by
  induction entries generalizing renderer with
  | nil => exact ⟨hserving, rfl⟩
  | cons entry rest ih =>
      have hnext : Serving engine call first (renderer.accept call) :=
        ⟨hserving.repeated.tail .accept, hserving.length_eq, hserving.welcoming⟩
      obtain ⟨hlast, hlength⟩ := ih hnext
      have haccepted : (renderer.accept call).jobs.length = renderer.jobs.length + 1 :=
        List.length_append
      refine ⟨hlast, hlength.trans ?_⟩
      rw [haccepted, List.length_cons]
      omega

theorem welcoming_factory {desk : Pool.Desk (ExecutionContext Environment)}
    (hwelcoming : desk.Welcoming) : (desk.settle factory).1.Welcoming :=
  hwelcoming.settle fun id => ⟨.create id, rfl⟩

theorem welcoming_setDesk {place : Nat} {desk : Pool.Desk (ExecutionContext Environment)}
    (hwelcoming : ∀ desk ∈ renderer.desks, desk.Welcoming) (hdesk : desk.Welcoming) :
    ∀ other ∈ (renderer.setDesk place desk).desks, other.Welcoming := by
  intro other hmem
  rw [desks_setDesk] at hmem
  rcases List.mem_or_eq_of_mem_set hmem with hold | rfl
  · exact hwelcoming other hold
  · exact hdesk

theorem Serving.settleDesks {first : Renderer World Environment} {call : Call}
    (hserving : Serving engine call first renderer) :
    Serving engine call first renderer.settleDesks.1 := by
  obtain ⟨installation, hinstallations⟩ := List.length_eq_one_iff.1 hserving.length_eq
  have hinstallation : renderer.installations[0]? = some installation := by
    rw [hinstallations]
    rfl
  have hsettled : renderer.settleDesks.1 =
      renderer.setDesk 0 (installation.desk.settle factory).1 := by
    simp [Renderer.settleDesks, setDesk, hinstallations]
  refine ⟨?_, ?_, ?_⟩
  · rw [hsettled]
    exact hserving.repeated.trans
      (repeats_servesOn hinstallation (Session.servesOn_settle installation.desk))
  · rw [hsettled, setDesk, List.length_modify]
    exact hserving.length_eq
  · rw [hsettled]
    exact welcoming_setDesk hserving.welcoming (welcoming_factory
      (hserving.welcoming _ (List.mem_of_getElem? (desk_of_installation hinstallation))))

theorem Serving.step {first next : Renderer World Environment} {call : Call} {time job : Nat}
    {events : List Log.Event} (hserving : Serving engine call first renderer)
    (hstep : renderer.step engine time job = some (next, events)) :
    Serving engine call first next := by
  obtain ⟨before, after, hbefore, hstride⟩ := exists_stride_of_step hstep
  refine ⟨hserving.repeated.tail (.work hstep), ?_, ?_⟩
  · have hlength := congrArg List.length hstride.caches_eq
    simp only [caches, List.length_map] at hlength
    exact hlength.trans hserving.length_eq
  · have hwelcoming : ∀ {place : Nat} {installation : Installation Environment},
        renderer.installations[place]? = some installation → installation.desk.Welcoming :=
      fun hinstallation =>
        hserving.welcoming _ (List.mem_of_getElem? (desk_of_installation hinstallation))
    cases hstride with
    | arrive clock hinstallation hget =>
        exact welcoming_setDesk hserving.welcoming
          ((hwelcoming hinstallation).move (.arrive clock _) trivial)
    | endWork hgates hinstallation =>
        exact welcoming_setDesk hserving.welcoming ((hwelcoming hinstallation).updateHeld _ _)
    | leave hinstallation hmove =>
        exact welcoming_setDesk hserving.welcoming ((hwelcoming hinstallation).move hmove trivial)
    | _ => exact hserving.welcoming

theorem Serving.run {first : Renderer World Environment} {call : Call}
    (hserving : Serving engine call first renderer) (time : Nat) :
    Serving engine call first (renderer.run engine time).1 :=
  runSteps_induction (motive := Serving engine call first) (fun _ hearlier => hearlier.settleDesks)
    (fun hearlier hstep => hearlier.step hstep) _ hserving

theorem exists_answers_of_finished {jobs : List (Job Environment)}
    (hfinished : ∀ state ∈ jobs, state.IsFinished) :
    ∃ answers : List (Except RenderError Answer),
      jobs.map Job.stage = answers.map .finished := by
  induction jobs with
  | nil => exact ⟨[], rfl⟩
  | cons state rest ih =>
      obtain ⟨result, hresult⟩ := hfinished state List.mem_cons_self
      obtain ⟨answers, hanswers⟩ := ih fun other hmem =>
        hfinished other (List.mem_cons_of_mem state hmem)
      exact ⟨result :: answers, by simp [hresult, hanswers]⟩

/-- A renderer that only repeats a call runs until all are answered, if the engine keeps none
of them waiting. -/
theorem Serving.exists_answers {setup : Setup} {sources : Sources} {world : World}
    {installation : Installation Environment} {call : Call} (hprompt : engine.NeverWaits)
    (hbuild : Installation.build setup sources = .ok installation)
    (hserving : Serving engine call ⟨world, [installation], []⟩ renderer) (time : Nat) :
    ∃ answers : List (Except RenderError Answer),
      (renderer.run engine time).1.jobs.map Job.stage = answers.map .finished ∧
        (renderer.run engine time).1.Answers answers := by
  have hran := hserving.run time
  have hrest : (renderer.run engine time).1.AtRest engine time := atRest_run renderer time
  obtain ⟨first, hreach, hfirst, huniform⟩ :=
    Session.exists_first_of_build world hbuild call
  obtain ⟨later, hlater, hsame, -⟩ :=
    Session.exists_session_of_repeats hreach huniform hfirst hran.repeated
  rw [← hsame] at hrest
  have hfinished := Session.finished_of_atRest hlater hprompt hrest
  rw [hsame] at hfinished
  obtain ⟨answers, hanswers⟩ := exists_answers_of_finished hfinished
  refine ⟨answers, hanswers, ?_, .of_eq hanswers⟩
  intro index caller error hphase
  obtain ⟨desk, hdesk, hcaller⟩ := Option.bind_eq_some_iff.1 hphase
  exact ((hran.welcoming desk (List.mem_of_getElem? hdesk)).stays hcaller).2 error rfl

end Renderer

end ServerRender
