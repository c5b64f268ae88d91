import ServerRender.Proofs.Renderer.Confinement

/-!
# Reports of failures

A call whose component does not load, or throws, reports this in the log when it is
answered: once, with the component, the path and the message of the engine.  A call that
ends in any other way reports nothing, and an engine out of reach is such another way,
whether it could not be made, has panicked or was lost.  What the engine itself logs in
the course of a call, such as the lines that scripts write to their console, is told apart
from the reports of the call, and so is the event by which a thread logs that a job has
panicked.
-/

namespace ServerRender

variable {World Environment : Type}

def Log.Event.isError (event : Log.Event) : Bool :=
  event.level = .error

namespace FailedRender

variable (failed : FailedRender) (cause : EngineError)

def report : Log.Event :=
  .renderFailed failed.component failed.urlPath cause.isProgram cause.message

def stackTrace : List Log.Event :=
  if cause.frames.isEmpty then []
  else .stackTrace failed.component cause.frames.length
    :: frameEvents failed.source 0 cause.frames

theorem events_production : failed.events .production cause = [failed.report cause] := rfl

theorem events_development :
    failed.events .development cause = failed.report cause :: failed.stackTrace cause := by
  cases hframes : cause.frames.isEmpty <;>
    simp [events, report, stackTrace, RenderMode.isDevelopment, hframes]

theorem level_frameEvents {source : String} {index : Nat} {frames : List StackFrame}
    {event : Log.Event} (hmem : event ∈ frameEvents source index frames) :
    event.level = .warn := by
  induction frames generalizing index with
  | nil => contradiction
  | cons frame rest ih =>
      rcases List.mem_cons.1 hmem with rfl | hrest
      · rfl
      · exact ih hrest

/-- Frames are only warned of. -/
theorem level_stackTrace {event : Log.Event} (hmem : event ∈ failed.stackTrace cause) :
    event.level = .warn := by
  unfold stackTrace at hmem
  split at hmem
  · contradiction
  · rcases List.mem_cons.1 hmem with rfl | hframe
    · rfl
    · exact level_frameEvents hframe

theorem filter_stackTrace : (failed.stackTrace cause).filter Log.Event.isError = [] := by
  refine List.filter_eq_nil_iff.2 fun event hmem => ?_
  simp [Log.Event.isError, failed.level_stackTrace cause hmem]

/-- In either mode there is one event at error level. -/
theorem filter_events (mode : RenderMode) :
    (failed.events mode cause).filter Log.Event.isError = [failed.report cause] := by
  cases mode with
  | production =>
      rw [events_production]
      rfl
  | development =>
      rw [events_development]
      exact congrArg (List.cons _) (failed.filter_stackTrace cause)

end FailedRender

namespace Call

def urlPath : Call → String
  | render _ urlPath _ => urlPath
  | load _ => ""

def props : Call → String
  | render _ _ props => props
  | load _ => ""

def failure (call : Call) (cause : EngineError) : RenderError :=
  match cause with
  | .unavailable message => .engineUnavailable message
  | _ => .prerender ⟨call.component, propsPreview call.props, cause⟩

def reports (call : Call) (cause : EngineError) : List Log.Event :=
  if cause.isUnavailable then []
  else [.renderFailed call.component call.urlPath cause.isProgram cause.message]

def failed (call : Call) (attempt : Attempt) : FailedRender where
  component := attempt.bundle.component
  urlPath := call.urlPath
  props := call.props
  bundle := attempt.bundle.source
  wrapper := match call with
    | render _ _ _ => attempt.wrapper
    | load _ => ""

end Call

namespace Renderer

variable {installation : Installation Environment} {call : Call} {attempt : Attempt}

theorem concludeCall_eq_fail (cause : EngineError) :
    concludeCall installation call attempt (.error cause) =
      (.error (installation.fail (call.failed attempt) cause).1,
        (installation.fail (call.failed attempt) cause).2) := by
  cases call <;> rfl

theorem answer_of_failure (hcomponent : attempt.bundle.component = call.component)
    (cause : EngineError) :
    (concludeCall installation call attempt (.error cause)).1 =
      .error (call.failure cause) := by
  rw [concludeCall_eq_fail]
  cases cause <;> simp [Installation.fail, Call.failure, Call.failed, FailedRender.failure,
    ComponentFailure.ofCause, hcomponent]

theorem reports_of_failure (hcomponent : attempt.bundle.component = call.component)
    (cause : EngineError) :
    (concludeCall installation call attempt (.error cause)).2.filter Log.Event.isError =
      call.reports cause := by
  rw [concludeCall_eq_fail]
  cases cause with
  | unavailable message => rfl
  | program message frames =>
      simp only [Installation.fail, FailedRender.filter_events, Call.failed, hcomponent]
      rfl
  | runtime message frames =>
      simp only [Installation.fail, FailedRender.filter_events, Call.failed, hcomponent]
      rfl

end Renderer

namespace Pool.Desk

variable {Context : Type}

theorem filter_phaseAfterLook (size millis : Nat) (last : Bool) (found : Found Context) :
    (phaseAfterLook size millis last found).2.filter Log.Event.isError = [] := by
  cases found with
  | full => cases last <;> rfl
  | _ => rfl

/-- A pool that has no context to give only warns. -/
theorem filter_events_of_step {desk next : Desk Context} {action : Action Context}
    {events : List Log.Event} (hstep : desk.step action = some (next, events)) :
    events.filter Log.Event.isError = [] := by
  cases action with
  | look caller =>
      simp only [step] at hstep
      split at hstep
      · obtain ⟨-, rfl⟩ := Prod.mk.inj (Option.some.inj hstep)
        exact filter_phaseAfterLook _ _ _ _
      · obtain ⟨-, rfl⟩ := Prod.mk.inj (Option.some.inj hstep)
        exact filter_phaseAfterLook _ _ _ _
      · contradiction
  | build caller made =>
      simp only [step] at hstep
      split at hstep
      · obtain ⟨-, rfl⟩ := Prod.mk.inj (Option.some.inj hstep)
        rfl
      · obtain ⟨-, rfl⟩ := Prod.mk.inj (Option.some.inj hstep)
        rfl
      · contradiction
  | notify caller =>
      obtain rfl : events = [] := by cases caller <;> simp only [step] at hstep <;> grind
      rfl
  | _ =>
      obtain rfl : events = [] := by simp only [step] at hstep; grind
      rfl

end Pool.Desk

/-- The panics of a job that has ended so, by the number of the thread. -/
def Verdict.panics {α : Type} (thread : Nat) : Verdict α → List Nat
  | .panic => [thread]
  | _ => []

theorem Verdict.eq_panic {α : Type} {thread : Nat} {verdict : Verdict α}
    (hpanics : verdict.panics thread ≠ []) : verdict = .panic := by
  cases verdict with
  | panic => rfl
  | _ => exact absurd rfl hpanics

namespace Engine

/-- The engine may log the event itself, while it loads a source or evaluates a script. -/
def Logs (engine : Engine World Environment) (event : Log.Event) : Prop :=
  (∃ world environment source, event ∈ (engine.load world environment source).2.events) ∨
    ∃ world environment script, event ∈ (engine.eval world environment script).2.events

/-- The events at error level are the engine's own and, behind these, one of its thread for
each panic. -/
def Explains (engine : Engine World Environment) (panics : List Nat) (log : List Log.Event) :
    Prop :=
  ∃ theirs : List Log.Event, (∀ event ∈ theirs, engine.Logs event) ∧
    log.filter Log.Event.isError = theirs ++ panics.map .jobPanicked

variable {engine : Engine World Environment} {panics : List Nat} {log : List Log.Event}

theorem explains_of_logs (hlogs : ∀ event ∈ log, engine.Logs event) : engine.Explains [] log :=
  ⟨_, fun event hmem => hlogs event (List.mem_filter.1 hmem).1, (List.append_nil _).symm⟩

theorem explains_nil : engine.Explains [] [] :=
  explains_of_logs fun _ hmem => nomatch hmem

theorem Explains.append {more : List Log.Event} (hlog : engine.Explains [] log)
    (hmore : engine.Explains panics more) : engine.Explains panics (log ++ more) := by
  obtain ⟨earlier, hearlier, hfirst⟩ := hlog
  obtain ⟨theirs, htheirs, hrest⟩ := hmore
  rw [List.map_nil, List.append_nil] at hfirst
  refine ⟨earlier ++ theirs, ?_, ?_⟩
  · intro event hmem
    exact (List.mem_append.1 hmem).elim (hearlier event) (htheirs event)
  · rw [List.filter_append, hfirst, hrest, List.append_assoc]

/-- A thread adds an event only if the job has panicked. -/
theorem explains_eventsAfter {α : Type} (id : Nat) (verdict : Verdict α)
    (hlogs : ∀ event ∈ log, engine.Logs event) :
    engine.Explains (verdict.panics id) (EngineThread.eventsAfter id verdict log) := by
  have hquiet := explains_of_logs hlogs
  cases verdict with
  | value result => exact hquiet
  | failure error => exact hquiet
  | panic => exact hquiet.append ⟨[], by simp, rfl⟩

theorem logs_of_load {world : World} {scopes : EngineScopes Environment} {bundle : CodeBundle}
    {event : Log.Event} (hmem : event ∈ (scopes.load engine world bundle).2.events) :
    engine.Logs event := by
  cases hcreate : engine.create world with
  | mk created verdict =>
      cases verdict with
      | value fresh =>
          simp only [EngineScopes.load, hcreate, Reply.map] at hmem
          exact .inl ⟨created, fresh, bundle.source, hmem⟩
      | failure error => simp [EngineScopes.load, hcreate] at hmem
      | panic => simp [EngineScopes.load, hcreate] at hmem

theorem logs_of_evaluate {world : World} {scopes : EngineScopes Environment}
    {component script : String} {event : Log.Event}
    (hmem : event ∈ (scopes.evaluate engine world component script).2.events) :
    engine.Logs event := by
  cases henvironment : scopes.environments.get? component with
  | none => simp [EngineScopes.evaluate_of_none engine world script henvironment] at hmem
  | some environment =>
      rw [EngineScopes.evaluate_of_environment engine world script henvironment] at hmem
      exact .inr ⟨world, environment, script, hmem⟩

/-- That the state of an engine was lost is only a warning. -/
theorem Explains.conclude {α β : Type} {context : ExecutionContext Environment}
    {record : ExecutionContext Environment → ExecutionContext Environment} {wrap : α → β}
    {reply : Reply (EngineThread Environment) (Except EngineError α)}
    (hreply : engine.Explains panics reply.events) :
    engine.Explains panics (context.conclude record wrap reply).events := by
  obtain ⟨theirs, htheirs, hevents⟩ := hreply
  refine ⟨theirs, htheirs, ?_⟩
  simp only [ExecutionContext.conclude, ExecutionContext.settle]
  split
  · split
    · rw [List.filter_append, hevents]
      exact List.append_nil _
    · exact hevents
  · exact hevents

theorem explains_ensureLoaded {context : ExecutionContext Environment} {bundle : CodeBundle}
    (world : World)
    (hstale : context.generation? bundle.component ≠ some bundle.generation) :
    engine.Explains
      ((context.thread.scopes.load engine world bundle).2.outcome.panics context.thread.id)
      (context.ensureLoaded engine world bundle).2.events := by
  simp only [ExecutionContext.ensureLoaded, hstale, if_false]
  exact Explains.conclude (explains_eventsAfter _ _ fun _ => logs_of_load)

theorem explains_evaluate (world : World) (context : ExecutionContext Environment)
    (component script : String) :
    engine.Explains
      ((context.thread.scopes.evaluate engine world component script).2.outcome.panics
        context.thread.id)
      (context.evaluate engine world component script).2.events :=
  Explains.conclude (explains_eventsAfter _ _ fun _ => logs_of_evaluate)

end Engine

namespace Session

variable {engine : Engine World Environment}
variable {session next : Session World Environment} {action : Action World Environment}
variable {call : Call} {attempt : Attempt} {context : ExecutionContext Environment}
variable {reply : Reply (ExecutionContext Environment) (Except EngineError Work)}
variable {panics : List Nat} {trace : Trace}

/-- What an engine thread may be doing for an attempt that holds the context, with the panics
of its jobs. -/
inductive Suffers (engine : Engine World Environment) (attempt : Attempt)
    (context : ExecutionContext Environment) :
    Reply (ExecutionContext Environment) (Except EngineError Work) → List Nat → Prop
  /-- There is nothing to load. -/
  | current (world : World)
      (hcurrent : context.generation? attempt.bundle.component =
        some attempt.bundle.generation) :
      Suffers engine attempt context
        ((context.ensureLoaded engine world attempt.bundle).2.map id
          fun outcome : Except EngineError Bool => outcome.map .loaded) []
  | load (world : World)
      (hstale : context.generation? attempt.bundle.component ≠
        some attempt.bundle.generation) :
      Suffers engine attempt context
        ((context.ensureLoaded engine world attempt.bundle).2.map id
          fun outcome : Except EngineError Bool => outcome.map .loaded)
        ((context.thread.scopes.load engine world attempt.bundle).2.outcome.panics
          context.thread.id)
  | eval (world : World)
      (hloaded : context.generation? attempt.bundle.component =
        some attempt.bundle.generation) :
      Suffers engine attempt context
        ((context.evaluate engine world attempt.bundle.component attempt.wrapper).2.map id
          fun outcome : Except EngineError Json => outcome.map .value)
        ((context.thread.scopes.evaluate engine world attempt.bundle.component
          attempt.wrapper).2.outcome.panics context.thread.id)

theorem Works.exists_suffers (hworks : Works engine attempt context reply) :
    ∃ panics, Suffers engine attempt context reply panics := by
  cases hworks with
  | load world =>
      by_cases hcurrent : context.generation? attempt.bundle.component =
        some attempt.bundle.generation
      · exact ⟨_, .current world hcurrent⟩
      · exact ⟨_, .load world hcurrent⟩
  | eval world hloaded => exact ⟨_, .eval world hloaded⟩

theorem Suffers.explains (hsuffers : Suffers engine attempt context reply panics) :
    engine.Explains panics reply.events := by
  cases hsuffers with
  | current world hcurrent =>
      rw [ExecutionContext.ensureLoaded_of_current world hcurrent]
      exact Engine.explains_nil
  | load world hstale => exact Engine.explains_ensureLoaded world hstale
  | eval world hloaded =>
      exact Engine.explains_evaluate world context attempt.bundle.component attempt.wrapper

/-- A panic is answered as an engine out of reach. -/
theorem Suffers.outcome_eq (hsuffers : Suffers engine attempt context reply panics)
    (hpanics : panics ≠ []) : reply.outcome = .error (.unavailable "engine job aborted") := by
  cases hsuffers with
  | current world hcurrent => exact absurd rfl hpanics
  | load world hstale =>
      rw [Reply.map, ExecutionContext.outcome_ensureLoaded world hstale, Verdict.eq_panic hpanics]
      rfl
  | eval world hloaded =>
      change ((EngineThread.answerOf (context.thread.scopes.evaluate engine world
        attempt.bundle.component attempt.wrapper).2.outcome).map _).map Work.value = _
      rw [Verdict.eq_panic hpanics]
      rfl

/-- How a call has ended after its attempts, with what it has logged about that and the
panics on the way. -/
inductive Ended (engine : Engine World Environment) (session : Session World Environment)
    (call : Call) (attempts : List Attempt) :
    Except RenderError Answer → List Log.Event → List Nat → Prop
  | missing :
      Ended engine session call attempts (.error (.componentNotFound call.component)) [] []
  /-- No context was to be had. -/
  | refused {attempt : Attempt} {error : RenderError} (hmem : attempt ∈ attempts)
      (hrefused : session.PhaseIs attempt (.refused error)) :
      Ended engine session call attempts (.error error) [] []
  | answered {attempt : Attempt} {context : ExecutionContext Environment}
      {reply : Reply (ExecutionContext Environment) (Except EngineError Work)}
      {answer : Answer} (hmem : attempt ∈ attempts)
      (hsuffers : Suffers engine attempt context reply [])
      (hanswered : Renderer.stageAfterWork call attempt reply.outcome =
        (.leaving attempt (.ok answer) : Stage Environment)) :
      Ended engine session call attempts (.ok answer) [] []
  /-- The engine has failed, or has left nothing that could be an answer. -/
  | failed {attempt : Attempt} {context : ExecutionContext Environment}
      {reply : Reply (ExecutionContext Environment) (Except EngineError Work)}
      {cause : EngineError} {own : List Log.Event} {panics : List Nat}
      (hmem : attempt ∈ attempts) (hsuffers : Suffers engine attempt context reply panics)
      (hfailed : Renderer.stageAfterWork call attempt reply.outcome =
        (.leaving attempt (.error cause) : Stage Environment))
      (hpanics : panics ≠ [] → cause = .unavailable "engine job aborted")
      (hown : own.filter Log.Event.isError = call.reports cause) :
      Ended engine session call attempts (.error (call.failure cause)) own panics

theorem Ended.turn {attempts : List Attempt} {result : Except RenderError Answer}
    {own : List Log.Event} (hended : Ended engine session call attempts result own panics)
    (hturn : Turn engine session action next) :
    Ended engine next call attempts result own panics := by
  cases hended with
  | missing => exact .missing
  | refused hmem hrefused => exact .refused hmem (phaseOf?_of_isFinal hturn hrefused trivial)
  | answered hmem hsuffers hanswered => exact .answered hmem hsuffers hanswered
  | failed hmem hsuffers hfailed hpanics hown => exact .failed hmem hsuffers hfailed hpanics hown

/-- What a call has logged by the time that it is in a stage. -/
def Told (engine : Engine World Environment) (session : Session World Environment)
    (call : Call) (trace : Trace) : Stage Environment → Prop
  | .finished result =>
    ∃ earlier own panics, trace.log = earlier ++ own ∧ engine.Explains panics earlier ∧
      Ended engine session call trace.attempts result own panics
  | .leaving attempt result =>
    ∃ context reply panics, engine.Explains panics trace.log ∧
      Suffers engine attempt context reply panics ∧
      Renderer.stageAfterWork call attempt reply.outcome =
        (.leaving attempt result : Stage Environment)
  | _ => engine.Explains [] trace.log

theorem Told.turn {stage : Stage Environment} (htold : session.Told engine call trace stage)
    (hturn : Turn engine session action next) : next.Told engine call trace stage := by
  cases stage with
  | finished result =>
      obtain ⟨earlier, own, panics, hlog, hearlier, hended⟩ := htold
      exact ⟨earlier, own, panics, hlog, hearlier, hended.turn hturn⟩
  | _ => exact htold

/-! ## Strides and turns -/

/-- Only a panic stands behind what the engine has logged, and a call goes on only without
one. -/
theorem told_stageAfterWork (hexplains : engine.Explains panics trace.log)
    (hsuffers : Suffers engine attempt context reply panics) :
    session.Told engine call trace
      (Renderer.stageAfterWork call attempt reply.outcome) := by
  cases houtcome : reply.outcome with
  | error cause =>
      exact ⟨context, reply, panics, hexplains, hsuffers, by rw [houtcome]; rfl⟩
  | ok work =>
      obtain rfl : panics = [] := by
        by_contra hpanics
        exact nomatch houtcome.symm.trans (hsuffers.outcome_eq hpanics)
      cases work with
      | value result =>
          exact ⟨context, reply, [], hexplains, hsuffers, by rw [houtcome]; rfl⟩
      | loaded now =>
          cases call with
          | render component urlPath props => exact hexplains
          | load component =>
              exact ⟨context, reply, [], hexplains, hsuffers, by rw [houtcome]; rfl⟩

/-- What a call has come to that leaves its context behind. -/
theorem ended_of_leaving {attempts : List Attempt} {installation : Installation Environment}
    {result : Except EngineError Answer} (hmem : attempt ∈ attempts)
    (hcomponent : attempt.bundle.component = call.component)
    (hsuffers : Suffers engine attempt context reply panics)
    (hleaving : Renderer.stageAfterWork call attempt reply.outcome =
      (.leaving attempt result : Stage Environment)) :
    Ended engine session call attempts
      (Renderer.concludeCall installation call attempt result).1
      (Renderer.concludeCall installation call attempt result).2 panics := by
  have haborted : panics ≠ [] → result = .error (.unavailable "engine job aborted") := by
    intro hpanics
    rw [hsuffers.outcome_eq hpanics] at hleaving
    exact (Stage.leaving.inj hleaving).2.symm
  cases result with
  | ok answer =>
      obtain rfl : panics = [] := by
        by_contra hpanics
        exact nomatch haborted hpanics
      exact .answered hmem hsuffers hleaving
  | error cause =>
      rw [Renderer.answer_of_failure hcomponent]
      exact .failed hmem hsuffers hleaving (fun hpanics => Except.error.inj (haborted hpanics))
        (Renderer.reports_of_failure hcomponent cause)

/-- A stride of a call, with the attempt that it is making. -/
theorem told_of_stride (hconfined : Confined engine session) {time job : Nat}
    (hturn : Turn engine session (.work time job) next) {before after : Job Environment}
    {earlier : Trace} {events : List Log.Event}
    (hbefore : session.renderer.jobs[job]? = some before)
    (hearlier : session.traces[job]? = some earlier)
    (hmine : ∀ attempt, before.stage.attempt? = some attempt → attempt ∈ earlier.attempts)
    (htold : session.Told engine before.call earlier before.stage)
    (hstride : Renderer.Stride engine session.renderer job before after next.renderer events) :
    next.Told engine after.call (earlier.add (some after.stage) events) after.stage := by
  generalize hrenderer : next.renderer = renderer at hstride
  cases hstride with
  | enter => exact htold.append Engine.explains_nil
  | missing hinstallation hget => exact ⟨_, [], [], rfl, htold, .missing⟩
  | arrive clock hinstallation hget => exact htold.append Engine.explains_nil
  | startLoad hphase => exact htold.append Engine.explains_nil
  | startOver hphase => exact htold.append Engine.explains_nil
  | refused hphase hfinal =>
      exact ⟨_, [], [], rfl, htold,
        .refused (hmine _ rfl) (phaseOf?_of_isFinal hturn hphase trivial)⟩
  | startEval hphase => exact htold.append Engine.explains_nil
  | @endWork call retried attempt reply installation hgates hinstallation =>
      have hkeeps := hconfined.kept hbefore rfl
      cases hkeeps with
      | working hphase hworks =>
          obtain ⟨panics, hsuffers⟩ := hworks.exists_suffers
          exact told_stageAfterWork (htold.append hsuffers.explains) hsuffers
      | worked hphase hworks hstage =>
          exact absurd hstage (Renderer.stageAfterWork_ne_working _ _)
  | @leave call retried attempt result installation desk hinstallation hmove =>
      have hcomponent := (hconfined.booked hbefore hearlier (hmine _ rfl)).component_eq
      obtain ⟨context, reply, panics, hexplains, hsuffers, hleaving⟩ := htold
      exact ⟨earlier.log, _, panics, rfl, hexplains,
        ended_of_leaving (hmine _ rfl) hcomponent hsuffers hleaving⟩

/-- A call that has just come has logged nothing. -/
theorem trace_of_new (hseated : session.Seated) (hturn : Turn engine session action next)
    {trace : Trace} (htrace : next.traces[session.renderer.jobs.length]? = some trace) :
    trace = ⟨[], []⟩ := by
  rw [← hseated.length_traces] at htrace
  cases hturn with
  | accept call =>
      rw [List.getElem?_concat_length] at htrace
      exact (Option.some.inj htrace).symm
  | _ => simp at htrace

/-- The trace of a call after a step of its own, with the stride that the step was. -/
theorem exists_stride_of_work {time job : Nat}
    (hturn : Turn engine session (.work time job) next) {trace : Trace}
    (htrace : next.traces[job]? = some trace) :
    ∃ before after earlier events, session.renderer.jobs[job]? = some before ∧
      next.renderer.jobs[job]? = some after ∧ session.traces[job]? = some earlier ∧
      trace = earlier.add (some after.stage) events ∧
      Renderer.Stride engine session.renderer job before after next.renderer events := by
  obtain ⟨earlier, events, hearlier, hstep, rfl⟩ := trace_of_work hturn htrace
  obtain ⟨before, after, hbefore, hstride⟩ := Renderer.exists_stride_of_step hstep
  have hafter := hstride.job_eq hbefore
  refine ⟨before, after, earlier, events, hbefore, hafter, hearlier, ?_, hstride⟩
  rw [hafter]
  rfl

def AllTold (engine : Engine World Environment) (session : Session World Environment) : Prop :=
  ∀ {job : Nat} {state : Job Environment} {trace : Trace},
    session.renderer.jobs[job]? = some state → session.traces[job]? = some trace →
    session.Told engine state.call trace state.stage

theorem told_of_turn (hseated : session.Seated) (hconfined : Confined engine session)
    (htold : AllTold engine session) (hturn : Turn engine session action next) :
    AllTold engine next := by
  intro job state trace hjob htrace
  rcases job_cases_of_turn hturn hjob with
    ⟨hother, hold⟩ | ⟨rfl, hentering⟩ | ⟨time, -, -, rfl, -, -⟩
  · have hlt := hseated.length_traces ▸ (List.getElem?_eq_some_iff.1 hold).1
    have hearlier := List.getElem?_eq_getElem hlt
    obtain rfl := Option.some.inj ((trace_of_turn hturn hearlier hother).symm.trans htrace)
    exact (htold hold hearlier).turn hturn
  · rw [hentering, trace_of_new hseated hturn htrace]
    exact Engine.explains_nil
  · obtain ⟨before, after, earlier, events, hbefore, hafter, hearlier, rfl, hstride⟩ :=
      exists_stride_of_work hturn htrace
    obtain rfl := Option.some.inj (hafter.symm.trans hjob)
    refine told_of_stride hconfined hturn hbefore hearlier ?_ (htold hbefore hearlier) hstride
    intro attempt hattempt
    obtain ⟨rest, log, hcurrent⟩ := hseated.current hbefore hattempt
    obtain rfl := Option.some.inj (hcurrent.symm.trans hearlier)
    exact List.mem_cons_self

theorem told_of_reachable (hreach : Reachable engine session) : AllTold engine session := by
  refine hreach.induction (motive := AllTold engine) ?_ ?_
  · intro world setup sources first hstart
    obtain ⟨installation, -, rfl⟩ := start_eq_ok hstart
    simp [AllTold]
  · intro session action next hreach hturn htold
    exact told_of_turn (seated_of_reachable hreach) (confined_of_reachable hreach) htold hturn

/-- Whatever the engine does, and in either mode, a call has reported at most one failure at
error level: exactly one if its component could not be loaded or has thrown, with the
component, the path and the message of the engine, and none if it was answered, if no
context was to be had, or if the engine was out of reach.  All other events at that level
are the engine's own, and where a job of the call has panicked, one of its thread, which
names nothing but the thread.  The pools log none. -/
theorem reported_of_finished (hreach : Reachable engine session) {job : Nat} {call : Call}
    {retried : Bool} {result : Except RenderError Answer}
    (hjob : session.renderer.jobs[job]? = some ⟨call, retried, .finished result⟩) :
    (∃ trace earlier own panics, session.traces[job]? = some trace ∧
      trace.log = earlier ++ own ∧ engine.Explains panics earlier ∧
      Ended engine session call trace.attempts result own panics) ∧
    ∀ (desk after : Pool.Desk (ExecutionContext Environment))
      (action : Pool.Action (ExecutionContext Environment)) (events : List Log.Event),
      desk.step action = some (after, events) → events.filter Log.Event.isError = [] := by
  refine ⟨?_, fun desk after action events => Pool.Desk.filter_events_of_step⟩
  have hlt := (List.getElem?_eq_some_iff.1 hjob).1
  rw [← (seated_of_reachable hreach).length_traces] at hlt
  have htrace := List.getElem?_eq_getElem hlt
  obtain ⟨earlier, own, panics, hlog, hearlier, hended⟩ := told_of_reachable hreach hjob htrace
  exact ⟨_, earlier, own, panics, htrace, hlog, hearlier, hended⟩

/-! ## Two failures -/

/-- An engine whose scripts write an error to their console.  Its world says how the next
evaluation ends. -/
def stagedEngine : Engine (Verdict Json) Unit where
  create world := (world, .value ())
  load world _ _ := (world, ⟨[], (), [], .value ()⟩)
  eval world _ _ := (world, ⟨[], (), [.guest .error "trouble"], world⟩)
  isOpen _ _ := true

/-- The first render throws, and reports that.  The second one makes the engine panic, which
its thread logs, and reports nothing. -/
theorem reported_of_panic :
    ∃ session : Session (Verdict Json) Unit, Reachable stagedEngine session ∧
      session.traces.map Trace.log =
        [[.guest .error "trouble", .renderFailed "A" "/" false "boom"],
          [.guest .error "trouble", .jobPanicked 0, .stateLost 0 1 "engine job aborted"]] ∧
      (∃ trace earlier own panics, session.traces[0]? = some trace ∧
        trace.log = earlier ++ own ∧ stagedEngine.Explains panics earlier ∧
        Ended stagedEngine session (.render "A" "/" "") trace.attempts
          (.error (.prerender ⟨"A", "", .runtime "boom" []⟩)) own panics) ∧
      ∃ trace earlier own panics, session.traces[1]? = some trace ∧
        trace.log = earlier ++ own ∧ stagedEngine.Explains panics earlier ∧
        Ended stagedEngine session (.render "A" "/" "") trace.attempts
          (.error (.engineUnavailable "engine job aborted")) own panics := by
  obtain ⟨session, hreach, hlogs, hjobs⟩ : ∃ session : Session (Verdict Json) Unit,
      Reachable stagedEngine session ∧
      session.traces.map Trace.log =
        [[.guest .error "trouble", .renderFailed "A" "/" false "boom"],
          [.guest .error "trouble", .jobPanicked 0, .stateLost 0 1 "engine job aborted"]] ∧
      session.renderer.jobs =
        [⟨.render "A" "/" "", false,
          .finished (.error (.prerender ⟨"A", "", .runtime "boom" []⟩))⟩,
        ⟨.render "A" "/" "", false,
          .finished (.error (.engineUnavailable "engine job aborted"))⟩] :=
    ⟨_, ⟨.value .null, plainSetup, ⟨[("A", "")]⟩, _, start_plainSetup _ ⟨[("A", "")]⟩,
      ((((((((((((((((((((Relation.ReflTransGen.refl.tail
        ⟨.accept (.render "A" "/" ""), .accept _⟩).tail
        ⟨.work 0 0, .work rfl⟩).tail
        ⟨.work 0 0, .work rfl⟩).tail
        ⟨.serve 0 (.look 0), .serve rfl trivial rfl⟩).tail
        ⟨.serve 0 (.build 0 (.ok (.create 0))), .serve rfl ⟨0, rfl, rfl⟩ rfl⟩).tail
        ⟨.work 0 0, .work rfl⟩).tail
        ⟨.work 0 0, .work rfl⟩).tail
        ⟨.disturb (.failure (.runtime "boom" [])), .disturb _⟩).tail
        ⟨.work 0 0, .work rfl⟩).tail
        ⟨.work 0 0, .work rfl⟩).tail
        ⟨.work 0 0, .work rfl⟩).tail
        ⟨.accept (.render "A" "/" ""), .accept _⟩).tail
        ⟨.work 0 1, .work rfl⟩).tail
        ⟨.work 0 1, .work rfl⟩).tail
        ⟨.serve 0 (.look 1), .serve rfl trivial rfl⟩).tail
        ⟨.work 0 1, .work rfl⟩).tail
        ⟨.work 0 1, .work rfl⟩).tail
        ⟨.disturb .panic, .disturb _⟩).tail
        ⟨.work 0 1, .work rfl⟩).tail
        ⟨.work 0 1, .work rfl⟩).tail
        ⟨.work 0 1, .work rfl⟩⟩,
      rfl, rfl⟩
  exact ⟨session, hreach, hlogs, (reported_of_finished hreach (congrArg (·[0]?) hjobs)).1,
    (reported_of_finished hreach (congrArg (·[1]?) hjobs)).1⟩

def missingEngine : Engine Unit Unit where
  create world := (world, .failure (.unavailable "no engine"))
  load world _ _ := (world, ⟨[], (), [], .value ()⟩)
  eval world _ _ := (world, ⟨[], (), [], .value .null⟩)
  isOpen _ _ := true

/-- Not every failure of an engine is reported: where no engine can be started, the call
that asked for it fails, and nothing is logged. -/
theorem not_forall_reported :
    ¬ ∀ (session next : Session Unit Unit) (time job : Nat) (call : Call) (retried : Bool)
        (attempt : Attempt) (cause : EngineError), Reachable missingEngine session →
        session.renderer.jobs[job]? = some ⟨call, retried, .leaving attempt (.error cause)⟩ →
        Turn missingEngine session (.work time job) next →
        ∃ trace program, next.traces[job]? = some trace ∧
          trace.log.filter Log.Event.isError =
            [.renderFailed call.component call.urlPath program cause.message] := by
  intro hall
  obtain ⟨session, hreach, hjob, next, hturn, htrace⟩ : ∃ session : Session Unit Unit,
      Reachable missingEngine session ∧
      (∃ attempt, session.renderer.jobs[0]? = some ⟨.render "A" "/" "", false,
        .leaving attempt (.error (.unavailable "no engine"))⟩) ∧
      ∃ next, Turn missingEngine session (.work 0 0) next ∧
        (next.traces[0]?).map Trace.log = some [] :=
    ⟨_, ⟨(), plainSetup, ⟨[("A", "")]⟩, _, start_plainSetup _ ⟨[("A", "")]⟩,
      ((((((Relation.ReflTransGen.refl.tail
        ⟨.accept (.render "A" "/" ""), .accept _⟩).tail
        ⟨.work 0 0, .work rfl⟩).tail
        ⟨.work 0 0, .work rfl⟩).tail
        ⟨.serve 0 (.look 0), .serve rfl trivial rfl⟩).tail
        ⟨.serve 0 (.build 0 (.ok (.create 0))), .serve rfl ⟨0, rfl, rfl⟩ rfl⟩).tail
        ⟨.work 0 0, .work rfl⟩).tail
        ⟨.work 0 0, .work rfl⟩⟩,
      ⟨_, rfl⟩, _, .work rfl, rfl⟩
  obtain ⟨attempt, hjob⟩ := hjob
  obtain ⟨trace, program, hfound, hlog⟩ :=
    hall session next 0 0 _ false attempt _ hreach hjob hturn
  rw [hfound] at htrace
  rw [Option.some.inj htrace] at hlog
  contradiction

end Session

end ServerRender
