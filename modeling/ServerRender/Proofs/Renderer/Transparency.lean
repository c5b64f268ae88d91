import ServerRender.Proofs.PlainRender
import ServerRender.Proofs.Renderer.Archives
import ServerRender.Proofs.Renderer.Attempts

/-!
# Transparency

A renderer keeps contexts over many calls, and each of them keeps what it has loaded.
With engines that keep nothing in mind between evaluations none of this can be seen from
outside: a render that has got a context answers what the plain way answers for the
bundle that it has taken.  The invariant follows every call from stage to stage, next to
the records of all contexts.
-/

namespace ServerRender.Session

variable {World Environment : Type} {engine : Engine World Environment}
variable {session next : Session World Environment} {action : Action World Environment}
variable {loads : String → Verdict Unit} {evals : String → String → Verdict Json}

def PhaseIs (session : Session World Environment) (attempt : Attempt)
    (phase : Pool.Phase (ExecutionContext Environment)) : Prop :=
  session.renderer.phaseOf? attempt.installation attempt.caller = some phase

def SentAway (session : Session World Environment) (attempts : List Attempt) : Prop :=
  ∀ attempt ∈ attempts, session.PhaseIs attempt (.refused .poolShutdown)

/-- The attempt is the latest, and the ones before it found their pools shut down. -/
def Latest (session : Session World Environment) (attempts : List Attempt)
    (attempt : Attempt) : Prop :=
  ∃ rest, attempts = attempt :: rest ∧ session.SentAway rest

/-- The bundle was published for the component by the cache of the installation, and the
script comes from the template of this installation. -/
structure Booked (session : Session World Environment) (call : Call) (attempt : Attempt) :
    Prop where
  published : ∃ archive, session.archives[attempt.installation]? = some archive ∧
    archive.Has attempt.bundle
  component_eq : attempt.bundle.component = call.component
  scripted : ∃ template, session.renderer.templates[attempt.installation]? = some template ∧
    attempt.wrapper = call.wrapper template

/-- What an engine thread may be doing for an attempt that holds the context. -/
inductive Works (engine : Engine World Environment) (attempt : Attempt)
    (context : ExecutionContext Environment) :
    Reply (ExecutionContext Environment) (Except EngineError Work) → Prop
  | load (world : World) :
      Works engine attempt context
        ((context.ensureLoaded engine world attempt.bundle).2.map id
          fun outcome : Except EngineError Bool => outcome.map .loaded)
  | eval (world : World)
      (hloaded : context.generation? attempt.bundle.component =
        some attempt.bundle.generation) :
      Works engine attempt context
        ((context.evaluate engine world attempt.bundle.component attempt.wrapper).2.map id
          fun outcome : Except EngineError Json => outcome.map .value)

/-- The ways in which a render may end, by its attempts: its component was missing, or its
last attempt was refused a context, or it was served. -/
inductive Ends (engine : Engine World Environment) (session : Session World Environment)
    (component urlPath props : String) : List Attempt → Except RenderError Answer → Prop
  | missing {attempts : List Attempt} (haway : session.SentAway attempts) :
      Ends engine session component urlPath props attempts
        (.error (.componentNotFound component))
  | refused {attempt : Attempt} {rest : List Attempt} {error : RenderError}
      (haway : session.SentAway rest) (hrefused : session.PhaseIs attempt (.refused error)) :
      Ends engine session component urlPath props (attempt :: rest) (.error error)
  | served {attempt : Attempt} {rest : List Attempt} {template : Template} (start : World)
      (haway : session.SentAway rest) (hreturned : session.PhaseIs attempt .returned)
      (htemplate : session.renderer.templates[attempt.installation]? = some template) :
      Ends engine session component urlPath props (attempt :: rest)
        (plainAnswer engine start template attempt.bundle component urlPath props)

def Follows (engine : Engine World Environment) (session : Session World Environment)
    (call : Call) (attempts : List Attempt) : Stage Environment → Prop
  | .entering => session.SentAway attempts
  | .entered _ => session.SentAway attempts
  | .checkout attempt => session.Latest attempts attempt
  | .working attempt reply =>
    session.Latest attempts attempt ∧
      ∃ context, session.PhaseIs attempt (.holding context) ∧
        Works engine attempt context reply
  | .prepared attempt =>
    session.Latest attempts attempt ∧
      ∃ context, session.PhaseIs attempt (.holding context) ∧
        context.generation? attempt.bundle.component = some attempt.bundle.generation
  | .leaving attempt result =>
    session.Latest attempts attempt ∧
      ∀ component urlPath props, call = .render component urlPath props →
        ∃ start, result =
          (engine.renderPlainly start attempt.bundle.source attempt.wrapper).map .markup
  | .finished result =>
    ∀ component urlPath props, call = .render component urlPath props →
      session.Ends engine component urlPath props attempts result

/-- No context claims more than it holds, and no call has gone astray. -/
structure Sound (engine : Engine World Environment) (session : Session World Environment) :
    Prop where
  held : ∀ {place : Nat} {archive : Archive} {context : ExecutionContext Environment},
    session.archives[place]? = some archive → session.renderer.HasContext place context →
    context.RecordHeld engine archive.Has
  booked : ∀ {job : Nat} {state : Job Environment} {trace : Trace} {attempt : Attempt},
    session.renderer.jobs[job]? = some state → session.traces[job]? = some trace →
    attempt ∈ trace.attempts → session.Booked state.call attempt
  followed : ∀ {job : Nat} {state : Job Environment} {trace : Trace},
    session.renderer.jobs[job]? = some state → session.traces[job]? = some trace →
    session.Follows engine state.call trace.attempts state.stage

theorem SentAway.turn {attempts : List Attempt} (haway : session.SentAway attempts)
    (hturn : Turn engine session action next) : next.SentAway attempts :=
  fun attempt hmem => phaseOf?_of_isFinal hturn (haway attempt hmem) trivial

theorem Latest.turn {attempts : List Attempt} {attempt : Attempt}
    (hlatest : session.Latest attempts attempt) (hturn : Turn engine session action next) :
    next.Latest attempts attempt := by
  obtain ⟨rest, hattempts, haway⟩ := hlatest
  exact ⟨rest, hattempts, haway.turn hturn⟩

theorem template_of_turn (hturn : Turn engine session action next) {place : Nat}
    {template : Template} (htemplate : session.renderer.templates[place]? = some template) :
    next.renderer.templates[place]? = some template := by
  obtain ⟨more, hmore⟩ := templates_prefix_of_turn hturn
  rw [← hmore, List.getElem?_append_left (List.getElem?_eq_some_iff.1 htemplate).1]
  exact htemplate

theorem Booked.turn {call : Call} {attempt : Attempt} (hbooked : session.Booked call attempt)
    (hturn : Turn engine session action next) : next.Booked call attempt where
  published := by
    obtain ⟨archive, harchive, hhas⟩ := hbooked.published
    obtain ⟨later, hlater, hextends⟩ := archive_of_turn hturn harchive
    exact ⟨later, hlater, hextends.has hhas⟩
  component_eq := hbooked.component_eq
  scripted := by
    obtain ⟨template, htemplate, hwrapper⟩ := hbooked.scripted
    exact ⟨template, template_of_turn hturn htemplate, hwrapper⟩

theorem Ends.turn {component urlPath props : String} {attempts : List Attempt}
    {result : Except RenderError Answer}
    (hends : session.Ends engine component urlPath props attempts result)
    (hturn : Turn engine session action next) :
    next.Ends engine component urlPath props attempts result := by
  cases hends with
  | missing haway => exact .missing (haway.turn hturn)
  | refused haway hrefused =>
      exact .refused (haway.turn hturn) (phaseOf?_of_isFinal hturn hrefused trivial)
  | served start haway hreturned htemplate =>
      exact .served start (haway.turn hturn) (phaseOf?_of_isFinal hturn hreturned trivial)
        (template_of_turn hturn htemplate)

/-- A call that does not go on itself stays as far as it has come. -/
theorem Follows.turn (hseated : session.Seated) (hturn : Turn engine session action next)
    {job : Nat} {trace : Trace} {call : Call} {stage : Stage Environment}
    (htrace : session.traces[job]? = some trace) (hother : ∀ time, action ≠ .work time job)
    (hfollows : session.Follows engine call trace.attempts stage) :
    next.Follows engine call trace.attempts stage := by
  have hholds : ∀ {attempt : Attempt} {context : ExecutionContext Environment},
      session.Latest trace.attempts attempt → session.PhaseIs attempt (.holding context) →
      next.PhaseIs attempt (.holding context) := by
    intro attempt context hlatest hphase
    obtain ⟨rest, hattempts, -⟩ := hlatest
    refine phaseOf?_of_seated hseated hturn htrace ?_ hphase trivial hother
    rw [hattempts]
    exact List.mem_cons_self
  cases stage with
  | entering => exact SentAway.turn hfollows hturn
  | entered index => exact SentAway.turn hfollows hturn
  | checkout attempt => exact Latest.turn hfollows hturn
  | working attempt reply =>
      obtain ⟨hlatest, context, hphase, hworks⟩ := hfollows
      exact ⟨hlatest.turn hturn, context, hholds hlatest hphase, hworks⟩
  | prepared attempt =>
      obtain ⟨hlatest, context, hphase, hloaded⟩ := hfollows
      exact ⟨hlatest.turn hturn, context, hholds hlatest hphase, hloaded⟩
  | leaving attempt result =>
      obtain ⟨hlatest, hresult⟩ := hfollows
      exact ⟨hlatest.turn hturn, hresult⟩
  | finished result =>
      intro component urlPath props hcall
      exact (hfollows component urlPath props hcall).turn hturn

/-! ## The engine at work -/

section Work

variable {attempt : Attempt} {context : ExecutionContext Environment} {call : Call}
variable {reply : Reply (ExecutionContext Environment) (Except EngineError Work)}

theorem Works.recordHeld {known : CodeBundle → Prop} (hworks : Works engine attempt context reply)
    (hheld : context.RecordHeld engine known) (hknown : known attempt.bundle) :
    reply.after.RecordHeld engine known := by
  cases hworks with
  | load world => exact ExecutionContext.recordHeld_ensureLoaded world hheld hknown
  | eval world hloaded => exact ExecutionContext.recordHeld_evaluate world _ _ hheld

/-- An evaluation is the end of the work. -/
theorem stageAfterWork_value (call : Call) (attempt : Attempt) (outcome : Except EngineError Json) :
    (Renderer.stageAfterWork call attempt (outcome.map .value) : Stage Environment) =
      .leaving attempt ((outcome.bind Installation.outputOf).map .markup) := by
  cases outcome <;> rfl

/-- Once the engine thread has answered, the bundle is loaded or the call has the answer
of the plain way. -/
theorem follows_stageAfterWork (hstateless : engine.Stateless loads evals)
    {known : CodeBundle → Prop} {attempts : List Attempt}
    (hheld : context.RecordHeld engine known)
    (hdetermined : ExecutionContext.SourceDetermined known) (hknown : known attempt.bundle)
    (hworks : Works engine attempt context reply) (hlatest : session.Latest attempts attempt)
    (hphase : session.PhaseIs attempt (.holding reply.after)) :
    session.Follows engine call attempts (Renderer.stageAfterWork call attempt reply.outcome) := by
  cases hworks with
  | load world =>
      cases houtcome : (context.ensureLoaded engine world attempt.bundle).2.outcome with
      | error cause =>
          simp only [Reply.map, houtcome, Except.map, Renderer.stageAfterWork]
          refine ⟨hlatest, fun component urlPath props hcall => ⟨world, ?_⟩⟩
          rw [ExecutionContext.renderPlainly_of_ensureLoaded houtcome]
          rfl
      | ok now =>
          simp only [Reply.map, houtcome, Except.map, Renderer.stageAfterWork]
          cases call with
          | render component urlPath props =>
              exact ⟨hlatest, _, hphase, ExecutionContext.generation?_ensureLoaded houtcome⟩
          | load component => exact ⟨hlatest, by simp⟩
  | eval world hloaded =>
      obtain ⟨start, hplain⟩ := ExecutionContext.exists_renderPlainly_of_evaluate hstateless
        world attempt.wrapper hheld hdetermined hknown hloaded
      simp only [Reply.map, stageAfterWork_value]
      refine ⟨hlatest, fun component urlPath props hcall => ⟨start, ?_⟩⟩
      rw [hplain]

end Work

/-- What the caller is told in the end is the answer of the plain way. -/
theorem concludeCall_eq_plainAnswer {installation : Installation Environment}
    {template : Template} {attempt : Attempt} {component urlPath props : String} {start : World}
    (hcomponent : attempt.bundle.component = component)
    (hwrapper : attempt.wrapper = template.wrapperScript ⟨component, urlPath, props⟩) :
    (Renderer.concludeCall installation (.render component urlPath props) attempt
      ((engine.renderPlainly start attempt.bundle.source attempt.wrapper).map .markup)).1 =
      plainAnswer engine start template attempt.bundle component urlPath props := by
  rw [plainAnswer, ← hwrapper]
  cases engine.renderPlainly start attempt.bundle.source attempt.wrapper with
  | ok markup => rfl
  | error cause =>
      cases cause with
      | unavailable message => rfl
      | program message frames =>
          simp [Renderer.concludeCall, Except.map, Installation.fail, FailedRender.failure,
            ComponentFailure.ofCause, hcomponent]
      | runtime message frames =>
          simp [Renderer.concludeCall, Except.map, Installation.fail, FailedRender.failure,
            ComponentFailure.ofCause, hcomponent]

/-- The bundles that a cache has published are told apart by their generations. -/
theorem Filed.sourceDetermined (hfiled : session.Filed) {place : Nat} {archive : Archive}
    (harchive : session.archives[place]? = some archive) :
    ExecutionContext.SourceDetermined archive.Has := by
  obtain ⟨installation, -, hrecorded⟩ := hfiled.exists_installation harchive
  intro bundle other hbundle hother _ hgeneration
  exact congrArg CodeBundle.source
    (hrecorded.bundle_eq_of_generation hbundle hother hgeneration)

/-- A stride takes its call from what is true of one stage to what is true of the next. -/
theorem follows_of_stride (hstateless : engine.Stateless loads evals)
    (hfiled : session.Filed) (hsound : Sound engine session)
    {time job : Nat} (hturn : Turn engine session (.work time job) next)
    {before after : Job Environment} {earlier : Trace} {events log : List Log.Event}
    (hbefore : session.renderer.jobs[job]? = some before)
    (hearlier : session.traces[job]? = some earlier)
    (hstride : Renderer.Stride engine session.renderer job before after next.renderer events) :
    next.Follows engine after.call (earlier.add (some after.stage) log).attempts after.stage := by
  have hfollows := hsound.followed hbefore hearlier
  have hmine : ∀ {attempt : Attempt}, session.Latest earlier.attempts attempt →
      session.Booked before.call attempt := by
    intro attempt hlatest
    obtain ⟨rest, hattempts, -⟩ := hlatest
    refine hsound.booked hbefore hearlier ?_
    rw [hattempts]
    exact List.mem_cons_self
  -- The renderer after the stride is a part of the next session, and has to stand alone
  -- for the strides to be told apart.
  generalize hrenderer : next.renderer = renderer at hstride
  cases hstride with
  | enter => exact SentAway.turn hfollows hturn
  | missing hinstallation hget =>
      intro component urlPath props hcall
      obtain rfl := hcall
      exact .missing (SentAway.turn hfollows hturn)
  | arrive clock hinstallation hget =>
      exact ⟨earlier.attempts, rfl, SentAway.turn hfollows hturn⟩
  | @startLoad call retried attempt context hphase =>
      refine ⟨Latest.turn hfollows hturn, context, ?_, .load session.renderer.world⟩
      rw [PhaseIs, hrenderer]
      exact hphase
  | @startOver component urlPath props attempt hphase =>
      obtain ⟨rest, hattempts, haway⟩ := hfollows
      have hall : session.SentAway earlier.attempts := by
        rw [hattempts]
        exact List.forall_mem_cons.2 ⟨hphase, haway⟩
      exact hall.turn hturn
  | @refused call retried attempt error hphase hfinal =>
      obtain ⟨rest, hattempts, haway⟩ := hfollows
      intro component urlPath props hcall
      simp only [Trace.add, hattempts]
      exact .refused (haway.turn hturn) (phaseOf?_of_isFinal hturn hphase trivial)
  | @startEval call retried attempt context hphase =>
      obtain ⟨hlatest, other, hother, hloaded⟩ := hfollows
      obtain rfl := Pool.Phase.holding.inj (Option.some.inj (hphase.symm.trans hother))
      refine ⟨hlatest.turn hturn, context, ?_, .eval session.renderer.world hloaded⟩
      rw [PhaseIs, hrenderer]
      exact hphase
  | @endWork call retried attempt reply installation hgates hinstallation =>
      obtain ⟨hlatest, context, hphase, hworks⟩ := hfollows
      obtain ⟨archive, harchive, hhas⟩ := (hmine hlatest).published
      have hheld := hsound.held harchive (Renderer.hasContext_of_phaseOf? hphase)
      have hworked : next.PhaseIs attempt (.holding reply.after) := by
        rw [PhaseIs, hrenderer]
        exact Renderer.phaseOf?_updateHeld hinstallation hphase reply.after
      rw [Trace.add_of_ne fun other => by
        simpa using Renderer.stageAfterWork_ne_checkout other]
      exact follows_stageAfterWork hstateless hheld (hfiled.sourceDetermined harchive) hhas
        hworks (hlatest.turn hturn) hworked
  | @leave call retried attempt result installation desk hinstallation hmove =>
      obtain ⟨hlatest, hresult⟩ := hfollows
      have hbooked := hmine hlatest
      obtain ⟨rest, hattempts, haway⟩ := hlatest
      intro component urlPath props hcall
      obtain rfl := hcall
      obtain ⟨start, rfl⟩ := hresult component urlPath props rfl
      obtain ⟨template, htemplate, hwrapper⟩ := hbooked.scripted
      have hreturned : next.PhaseIs attempt .returned := by
        rw [PhaseIs, hrenderer]
        exact Renderer.phaseOf?_release hinstallation hmove
      have hcomponent : attempt.bundle.component = component := hbooked.component_eq
      rw [concludeCall_eq_plainAnswer hcomponent hwrapper]
      simp only [Trace.add, hattempts]
      exact .served start (haway.turn hturn) hreturned (template_of_turn hturn htemplate)

/-! ## Turns of a session -/

def AllBooked (session : Session World Environment) : Prop :=
  ∀ {job : Nat} {state : Job Environment} {trace : Trace} {attempt : Attempt},
    session.renderer.jobs[job]? = some state → session.traces[job]? = some trace →
    attempt ∈ trace.attempts → session.Booked state.call attempt

theorem booked_of_turn (hfiled : session.Filed) (hseated : session.Seated)
    (hbooked : session.AllBooked) (hturn : Turn engine session action next) {job : Nat}
    {state : Job Environment} {trace : Trace} {attempt : Attempt}
    (hjob : next.renderer.jobs[job]? = some state) (htrace : next.traces[job]? = some trace)
    (hmem : attempt ∈ trace.attempts) : next.Booked state.call attempt := by
  rcases attempt_cases_of_turn hturn htrace hmem with
    ⟨earlier, hearlier, hold⟩ | ⟨time, before, after, events, -, hbefore, hstride, hcheckout⟩
  · obtain ⟨before, hbefore, hcall⟩ := exists_job_of_trace hseated hturn hjob hearlier
    rw [← hcall]
    exact (hbooked hbefore hearlier hold).turn hturn
  · obtain rfl := Option.some.inj ((hstride.job_eq hbefore).symm.trans hjob)
    obtain ⟨installation, -, hinstallation, hget, -, hwrapper, -⟩ :=
      hstride.exists_installation_of_checkout hcheckout
    obtain ⟨archive, harchive, hrecorded⟩ := hfiled.exists_archive hinstallation
    obtain ⟨publication, hpublication, hbundle, hname⟩ := hrecorded.exists_publication hget
    have htaken : session.Booked after.call attempt :=
      ⟨⟨archive, harchive, publication, hpublication, hbundle⟩, hname, installation.template,
        by simp [Renderer.templates, hinstallation], hwrapper⟩
    exact htaken.turn hturn

/-- A context that was there before stays in line with what its cache has published. -/
theorem recordHeld_of_hasContext (hfiled : session.Filed) (hsound : Sound engine session)
    (hturn : Turn engine session action next) {place : Nat} {archive : Archive}
    {context : ExecutionContext Environment}
    (harchive : next.archives[place]? = some archive)
    (hcontext : session.renderer.HasContext place context) :
    context.RecordHeld engine archive.Has := by
  obtain ⟨desk, hdesk, hmem⟩ := hcontext
  have hlt := (List.getElem?_eq_some_iff.1 hdesk).1
  rw [Renderer.desks, List.length_map, ← hfiled.length_archives] at hlt
  have hearlier := List.getElem?_eq_getElem hlt
  obtain ⟨later, hlater, hextends⟩ := archive_of_turn hturn hearlier
  obtain rfl := Option.some.inj (hlater.symm.trans harchive)
  exact (hsound.held hearlier ⟨desk, hdesk, hmem⟩).mono fun bundle => hextends.has

theorem held_of_turn (hfiled : session.Filed) (hseated : session.Seated)
    (hsound : Sound engine session) (hturn : Turn engine session action next) {place : Nat}
    {archive : Archive} {context : ExecutionContext Environment}
    (harchive : next.archives[place]? = some archive)
    (hcontext : next.renderer.HasContext place context) :
    context.RecordHeld engine archive.Has := by
  rcases hasContext_cases_of_turn hfiled hturn hcontext with
    hold | ⟨number, rfl⟩ | ⟨job, state, attempt, reply, hjob, hworking, rfl, rfl⟩
  · exact recordHeld_of_hasContext hfiled hsound hturn harchive hold
  · exact ExecutionContext.recordHeld_create number
  · obtain ⟨rest, log, htrace⟩ := hseated.current hjob (Stage.attempt?_of_working hworking)
    have hfollows := hsound.followed hjob htrace
    rw [hworking] at hfollows
    obtain ⟨-, holding, hphase, hworks⟩ := hfollows
    have hhas := (hsound.booked hjob htrace List.mem_cons_self).turn hturn
    obtain ⟨published, hpublished, hbundle⟩ := hhas.published
    obtain rfl := Option.some.inj (hpublished.symm.trans harchive)
    have hheld := recordHeld_of_hasContext hfiled hsound hturn harchive
      (Renderer.hasContext_of_phaseOf? hphase)
    exact hworks.recordHeld hheld hbundle

theorem followed_of_turn (hstateless : engine.Stateless loads evals)
    (hfiled : session.Filed) (hseated : session.Seated) (hsound : Sound engine session)
    (hturn : Turn engine session action next) {job : Nat} {state : Job Environment}
    {trace : Trace} (hjob : next.renderer.jobs[job]? = some state)
    (htrace : next.traces[job]? = some trace) :
    next.Follows engine state.call trace.attempts state.stage := by
  rcases job_cases_of_turn hturn hjob with
    ⟨hother, hold⟩ | ⟨hlength, hentering⟩ | ⟨time, before, events, rfl, hbefore, hstride⟩
  · -- Somebody else has acted.
    have hlt := hseated.length_traces ▸ (List.getElem?_eq_some_iff.1 hold).1
    have hearlier := List.getElem?_eq_getElem hlt
    obtain rfl := Option.some.inj ((trace_of_turn hturn hearlier hother).symm.trans htrace)
    exact (hsound.followed hold hearlier).turn hseated hturn hearlier hother
  · -- A call that has just come has made no attempt.
    rw [hentering]
    intro attempt hmem
    rcases attempt_cases_of_turn hturn htrace hmem with
      ⟨earlier, hearlier, -⟩ | ⟨time, before, after, events, -, hbefore, -⟩
    · have hlt := (List.getElem?_eq_some_iff.1 hearlier).1
      rw [hseated.length_traces] at hlt
      omega
    · have hlt := (List.getElem?_eq_some_iff.1 hbefore).1
      omega
  · obtain ⟨earlier, log, hearlier, -, rfl⟩ := trace_of_work hturn htrace
    rw [hjob]
    exact follows_of_stride hstateless hfiled hsound hturn hbefore hearlier hstride

theorem Sound.start {world : World} {setup : Setup} {sources : Sources}
    (hstart : Session.start world setup sources = .ok session) : Sound engine session := by
  obtain ⟨installation, hbuild, rfl⟩ := start_eq_ok hstart
  refine ⟨?_, by simp, by simp⟩
  intro place archive context harchive hcontext
  obtain ⟨desk, hdesk, hmem⟩ := hcontext
  obtain rfl := List.mem_singleton.1 (List.mem_of_getElem? hdesk)
  have hsnapshot : [sources][0]? = some sources := rfl
  rw [(recorded_of_build hbuild hsnapshot).2] at hmem
  contradiction

theorem Sound.turn (hstateless : engine.Stateless loads evals) (hfiled : session.Filed)
    (hseated : session.Seated) (hsound : Sound engine session)
    (hturn : Turn engine session action next) : Sound engine next where
  held := held_of_turn hfiled hseated hsound hturn
  booked := booked_of_turn hfiled hseated hsound.booked hturn
  followed := followed_of_turn hstateless hfiled hseated hsound hturn

theorem sound_of_reachable (hstateless : engine.Stateless loads evals)
    (hreach : Reachable engine session) : Sound engine session := by
  refine hreach.induction ?_ ?_
  · intro world setup sources first hstart
    exact .start hstart
  · intro session action next hreach hturn hsound
    exact hsound.turn hstateless (filed_of_reachable hreach) (seated_of_reachable hreach) hturn

/-- Caching is transparent.  Whatever was rendered, loaded, changed and set up anew
before, and whatever has failed or panicked meanwhile, a finished render either never got
a context, because its component was missing or its pools had none to give, or it has
taken a bundle of the component from a cache and answers what a fresh environment makes
of this bundle and of the template of the same installation.  Where fresh environments
can be made at all, it does not matter in which state of the world this is done. -/
theorem answer_eq_plainAnswer (hstateless : engine.Stateless loads evals)
    (hreach : Reachable engine session) (job : Nat) {retried : Bool}
    {component urlPath props : String} {result : Except RenderError Answer}
    (hjob : session.renderer.jobs[job]? =
      some ⟨.render component urlPath props, retried, .finished result⟩) :
    ∃ trace, session.traces[job]? = some trace ∧
      ((result = .error (.componentNotFound component) ∧ session.SentAway trace.attempts) ∨
      ∃ attempt rest, trace.attempts = attempt :: rest ∧ session.SentAway rest ∧
        session.Booked (.render component urlPath props) attempt ∧
        ((∃ error, session.PhaseIs attempt (.refused error) ∧ result = .error error) ∨
        (session.PhaseIs attempt .returned ∧ ∃ template,
          session.renderer.templates[attempt.installation]? = some template ∧
          (∃ start, result =
            plainAnswer engine start template attempt.bundle component urlPath props) ∧
          ∀ world created fresh, engine.create world = (created, .value fresh) →
            ∀ other, result =
              plainAnswer engine other template attempt.bundle component urlPath props))) := by
  have hsound := sound_of_reachable hstateless hreach
  have hlt := (List.getElem?_eq_some_iff.1 hjob).1
  rw [← (seated_of_reachable hreach).length_traces] at hlt
  have htrace := List.getElem?_eq_getElem hlt
  refine ⟨_, htrace, ?_⟩
  have hends : session.Ends engine component urlPath props _ result :=
    hsound.followed hjob htrace component urlPath props rfl
  have hbooked : ∀ attempt ∈ session.traces[job].attempts,
      session.Booked (.render component urlPath props) attempt :=
    fun attempt hmem => hsound.booked hjob htrace hmem
  generalize session.traces[job].attempts = attempts at hends hbooked
  cases hends with
  | missing haway => exact .inl ⟨rfl, haway⟩
  | @refused attempt rest error haway hrefused =>
      exact .inr ⟨attempt, rest, rfl, haway, hbooked attempt List.mem_cons_self,
        .inl ⟨error, hrefused, rfl⟩⟩
  | @served attempt rest template start haway hreturned htemplate =>
      refine .inr ⟨attempt, rest, rfl, haway, hbooked attempt List.mem_cons_self,
        .inr ⟨hreturned, template, htemplate, ⟨start, rfl⟩, ?_⟩⟩
      intro world created fresh hcreate other
      rw [plainAnswer, plainAnswer, hstateless.renderPlainly_congr hcreate start other]

theorem stateless_echoEngine :
    echoEngine.Stateless (fun _ => .value ())
      fun source _ => .value (.object [("outputValue", .string source)]) where
  creates _ other := ⟨other, "", rfl⟩
  loads_eq _ _ := rfl
  evals_eq := by
    intro source environment hloaded world script
    have hsame : environment = source := by
      induction hloaded with
      | loaded hcreate hload => rfl
      | evaluated world script hloaded ih => exact ih
    rw [hsame]
    rfl

/-- A component is rendered, edited and reported as changed.  The next render gets the
same context, which loads the new bundle, and it answers what a fresh environment makes
of that. -/
theorem answer_of_edit :
    ∃ (session : Session Unit String) (attempt : Attempt) (template : Template),
      Reachable echoEngine session ∧
      session.renderer.jobs =
        [⟨.render "A" "/" "", false,
          .finished (.ok (.markup (CodeBundle.assemble "A" "" "old" 1).source))⟩,
        ⟨.render "A" "/" "", false,
          .finished (.ok (.markup (CodeBundle.assemble "A" "" "new" 2).source))⟩] ∧
      session.PhaseIs attempt .returned ∧ attempt.bundle.component = "A" ∧
      ∀ world, plainAnswer echoEngine world template attempt.bundle "A" "/" "" =
        .ok (.markup (CodeBundle.assemble "A" "" "new" 2).source) := by
  obtain ⟨session, hreach, hjobs⟩ : ∃ session : Session Unit String,
      Reachable echoEngine session ∧ session.renderer.jobs =
        [⟨.render "A" "/" "", false,
          .finished (.ok (.markup (CodeBundle.assemble "A" "" "old" 1).source))⟩,
        ⟨.render "A" "/" "", false,
          .finished (.ok (.markup (CodeBundle.assemble "A" "" "new" 2).source))⟩] :=
    ⟨_, ⟨(), plainSetup, ⟨[("A", "old")]⟩, _, start_plainSetup () ⟨[("A", "old")]⟩,
      ((((((((((((((((((((((((Relation.ReflTransGen.refl.tail
        ⟨.accept (.render "A" "/" ""), .accept _⟩).tail
        ⟨.work 0 0, .work rfl⟩).tail
        ⟨.work 0 0, .work rfl⟩).tail
        ⟨.serve 0 (.look 0), .serve rfl trivial rfl⟩).tail
        ⟨.serve 0 (.build 0 (.ok (.create 0))), .serve rfl ⟨0, rfl, rfl⟩ rfl⟩).tail
        ⟨.work 0 0, .work rfl⟩).tail
        ⟨.work 0 0, .work rfl⟩).tail
        ⟨.work 0 0, .work rfl⟩).tail
        ⟨.work 0 0, .work rfl⟩).tail
        ⟨.work 0 0, .work rfl⟩).tail
        ⟨.edit ⟨[("A", "new")]⟩, .edit _⟩).tail
        ⟨.report "A", .report _⟩).tail
        ⟨.change 0, .enter rfl⟩).tail
        ⟨.change 0, .read rfl rfl rfl rfl⟩).tail
        ⟨.change 0, .publish rfl rfl rfl⟩).tail
        ⟨.change 0, .finish rfl⟩).tail
        ⟨.accept (.render "A" "/" ""), .accept _⟩).tail
        ⟨.work 0 1, .work rfl⟩).tail
        ⟨.work 0 1, .work rfl⟩).tail
        ⟨.serve 0 (.look 1), .serve rfl trivial rfl⟩).tail
        ⟨.work 0 1, .work rfl⟩).tail
        ⟨.work 0 1, .work rfl⟩).tail
        ⟨.work 0 1, .work rfl⟩).tail
        ⟨.work 0 1, .work rfl⟩).tail
        ⟨.work 0 1, .work rfl⟩⟩,
      rfl⟩
  obtain ⟨trace, -, ⟨hmissing, -⟩ | ⟨attempt, rest, -, -, hbooked, hanswer⟩⟩ :=
    answer_eq_plainAnswer stateless_echoEngine hreach 1 (congrArg (·[1]?) hjobs)
  · contradiction
  · rcases hanswer with ⟨error, -, hrefused⟩ | ⟨hreturned, template, -, -, hplain⟩
    · contradiction
    · exact ⟨session, attempt, template, hreach, hjobs, hreturned, hbooked.component_eq,
        fun world => (hplain () () "" rfl world).symm⟩

end ServerRender.Session
