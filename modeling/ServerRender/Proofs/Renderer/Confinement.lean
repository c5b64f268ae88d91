import ServerRender.Proofs.Renderer.Replacement
import ServerRender.Proofs.Renderer.Transparency

/-!
# Attempts keep to one installation

A call reads once which installation is current and works with that one until its attempt
is over, whatever is put in place meanwhile: it has its bundle from the cache of that
installation and its script from the template, the engine works on the context that the
call holds in that pool, and the answer is worded as the mode of that installation asks.
An attempt ends with an answer, or with the refusal of its own pool, after which a render
may start over.
-/

namespace ServerRender.Session

variable {World Environment : Type} {engine : Engine World Environment}
variable {session next later : Session World Environment} {action : Action World Environment}
variable {call : Call} {attempt : Attempt}

/-- Of an installation only its mode has a say in the wording of an answer. -/
theorem concludeCall_eq_of_mode {installation other : Installation Environment}
    (hmode : other.mode = installation.mode) (result : Except EngineError Answer) :
    Renderer.concludeCall other call attempt result =
      Renderer.concludeCall installation call attempt result := by
  cases result with
  | ok answer => rfl
  | error cause => simp only [Renderer.concludeCall, Installation.fail, hmode]

/-- How far an attempt has come in its own installation.  From the moment at which it has
got a context, the caller of the attempt holds the very context that the engine works on,
until the attempt is over. -/
inductive Keeps (engine : Engine World Environment) (session : Session World Environment)
    (call : Call) (attempt : Attempt) : Stage Environment → Prop
  | waiting : Keeps engine session call attempt (.checkout attempt)
  | working {context : ExecutionContext Environment}
      {reply : Reply (ExecutionContext Environment) (Except EngineError Work)}
      (hphase : session.PhaseIs attempt (.holding context))
      (hworks : Works engine attempt context reply) :
      Keeps engine session call attempt (.working attempt reply)
  /-- The engine has answered and left the context in some state. -/
  | worked {context : ExecutionContext Environment}
      {reply : Reply (ExecutionContext Environment) (Except EngineError Work)}
      {stage : Stage Environment}
      (hphase : session.PhaseIs attempt (.holding reply.after))
      (hworks : Works engine attempt context reply)
      (hstage : Renderer.stageAfterWork call attempt reply.outcome = stage) :
      Keeps engine session call attempt stage
  | refused {error : RenderError} (hphase : session.PhaseIs attempt (.refused error)) :
      Keeps engine session call attempt (.finished (.error error))
  /-- The context is given back, and the answer is that of the work. -/
  | concluded {context : ExecutionContext Environment}
      {reply : Reply (ExecutionContext Environment) (Except EngineError Work)}
      {result : Except EngineError Answer} {installation : Installation Environment}
      (hphase : session.PhaseIs attempt .returned)
      (hworks : Works engine attempt context reply)
      (hresult : Renderer.stageAfterWork call attempt reply.outcome =
        (.leaving attempt result : Stage Environment))
      (hinstallation : session.renderer.installations[attempt.installation]? =
        some installation) :
      Keeps engine session call attempt
        (.finished (Renderer.concludeCall installation call attempt result).1)

/-- Nobody but the call itself takes an attempt any further. -/
theorem Keeps.turn (hseated : session.Seated) (hattended : session.Attended)
    (hturn : Turn engine session action next) {job : Nat} {trace : Trace}
    {stage : Stage Environment} (htrace : session.traces[job]? = some trace)
    (hmem : attempt ∈ trace.attempts) (hother : ∀ time, action ≠ .work time job)
    (hkeeps : Keeps engine session call attempt stage) :
    Keeps engine next call attempt stage := by
  have hphases : ∀ {phase : Pool.Phase (ExecutionContext Environment)}, phase.IsSettled →
      session.PhaseIs attempt phase → next.PhaseIs attempt phase := fun hsettled hphase =>
    phaseOf?_of_seated hseated hturn htrace hmem hphase hsettled hother
  cases hkeeps with
  | waiting => exact .waiting
  | working hphase hworks => exact .working (hphases trivial hphase) hworks
  | worked hphase hworks hstage => exact .worked (hphases trivial hphase) hworks hstage
  | refused hphase => exact .refused (hphases trivial hphase)
  | concluded hphase hworks hresult hinstallation =>
      obtain ⟨after, hafter, hevolves⟩ :=
        carries_of_turn hattended hturn attempt.installation _ hinstallation
      rw [← concludeCall_eq_of_mode hevolves.mode_eq]
      exact .concluded (hphases trivial hphase) hworks hresult hafter

/-- What a call does once its bundle is loaded finds the bundle loaded. -/
theorem generation?_of_prepared
    {reply : Reply (ExecutionContext Environment) (Except EngineError Work)}
    {context : ExecutionContext Environment} (hworks : Works engine attempt context reply)
    (hprepared : Renderer.stageAfterWork call attempt reply.outcome =
      (.prepared attempt : Stage Environment)) :
    reply.after.generation? attempt.bundle.component = some attempt.bundle.generation := by
  cases hworks with
  | load world =>
      cases houtcome : (context.ensureLoaded engine world attempt.bundle).2.outcome with
      | ok now => exact ExecutionContext.generation?_ensureLoaded houtcome
      | error cause =>
          simp [Reply.map, houtcome, Except.map, Renderer.stageAfterWork] at hprepared
  | eval world hloaded =>
      simp [Reply.map, stageAfterWork_value] at hprepared

/-- A stride takes an attempt further within its installation, or ends it: the pool of
this installation was shut down, and the render starts over. -/
theorem keeps_of_stride {job : Nat} {before after : Job Environment}
    {events : List Log.Event} (hattempt : before.stage.attempt? = some attempt)
    (hkeeps : Keeps engine session before.call attempt before.stage)
    (hstride : Renderer.Stride engine session.renderer job before after next.renderer events) :
    after.retried = before.retried ∧ Keeps engine next after.call attempt after.stage ∨
      before.retried = false ∧ after.retried = true ∧ after.stage = .entering ∧
        session.PhaseIs attempt (.refused .poolShutdown) := by
  generalize hrenderer : next.renderer = renderer at hstride
  have hphases : ∀ {started : Attempt} {phase : Pool.Phase (ExecutionContext Environment)},
      renderer.phaseOf? started.installation started.caller = some phase →
      next.PhaseIs started phase := by
    intro started phase hphase
    rw [PhaseIs, hrenderer]
    exact hphase
  cases hstride with
  | enter => contradiction
  | missing hinstallation hget => contradiction
  | arrive time hinstallation hget => contradiction
  | @startLoad call retried started context hphase =>
      obtain rfl := Option.some.inj hattempt
      exact .inl ⟨rfl, .working (hphases hphase) (.load session.renderer.world)⟩
  | startOver hphase =>
      obtain rfl := Option.some.inj hattempt
      exact .inr ⟨rfl, rfl, rfl, hphase⟩
  | refused hphase hfinal =>
      obtain rfl := Option.some.inj hattempt
      exact .inl ⟨rfl, .refused (hphases hphase)⟩
  | @startEval call retried started context hphase =>
      obtain rfl := Option.some.inj hattempt
      cases hkeeps with
      | worked hheld hworks hprepared =>
          obtain rfl := Pool.Phase.holding.inj (Option.some.inj (hphase.symm.trans hheld))
          have hloaded := generation?_of_prepared hworks hprepared
          exact .inl ⟨rfl, .working (hphases hphase) (.eval session.renderer.world hloaded)⟩
  | @endWork call retried started reply installation hgates hinstallation =>
      obtain rfl := Option.some.inj hattempt
      have hworking : ∃ context, session.PhaseIs started (.holding context) ∧
          Works engine started context reply := by
        cases hkeeps with
        | working hphase hworks => exact ⟨_, hphase, hworks⟩
        | worked hphase hworks hstage =>
            exact absurd hstage (Renderer.stageAfterWork_ne_working _ _)
      obtain ⟨context, hphase, hworks⟩ := hworking
      have hheld := Renderer.phaseOf?_updateHeld hinstallation hphase reply.after
      exact .inl ⟨rfl, .worked (hphases hheld) hworks rfl⟩
  | @leave call retried started result installation desk hinstallation hmove =>
      obtain rfl := Option.some.inj hattempt
      cases hkeeps with
      | worked hheld hworks hleaving =>
          have hreturned : next.PhaseIs started .returned :=
            hphases (Renderer.phaseOf?_release hinstallation hmove)
          have hafter : next.renderer.installations[started.installation]? =
              some { installation with desk } := by
            rw [hrenderer]
            simp [Renderer.setStage, Renderer.setDesk, hinstallation]
          have hsame : Renderer.concludeCall { installation with desk } call started result =
              Renderer.concludeCall installation call started result :=
            concludeCall_eq_of_mode rfl result
          rw [← hsame]
          exact .inl ⟨rfl, .concluded hreturned hworks hleaving hafter⟩

/-- Every attempt is booked in its installation, and those in progress keep to it. -/
structure Confined (engine : Engine World Environment) (session : Session World Environment) :
    Prop where
  booked : session.AllBooked
  kept : ∀ {job : Nat} {state : Job Environment} {attempt : Attempt},
    session.renderer.jobs[job]? = some state → state.stage.attempt? = some attempt →
    Keeps engine session state.call attempt state.stage

theorem kept_of_turn (hseated : session.Seated) (hattended : session.Attended)
    (hconfined : Confined engine session) (hturn : Turn engine session action next) {job : Nat}
    {state : Job Environment} (hjob : next.renderer.jobs[job]? = some state)
    (hattempt : state.stage.attempt? = some attempt) :
    Keeps engine next state.call attempt state.stage := by
  rcases job_cases_of_turn hturn hjob with
    ⟨hother, hold⟩ | ⟨-, hentering⟩ | ⟨time, before, events, rfl, hbefore, hstride⟩
  · obtain ⟨rest, log, htrace⟩ := hseated.current hold hattempt
    exact (hconfined.kept hold hattempt).turn hseated hattended hturn htrace
      List.mem_cons_self hother
  · rw [hentering] at hattempt
    contradiction
  · by_cases hcheckout : ∃ begun, state.stage = .checkout begun
    · obtain ⟨begun, hbegun⟩ := hcheckout
      rw [hbegun] at hattempt ⊢
      obtain rfl := Option.some.inj hattempt
      exact .waiting
    · have hgoing := hstride.attempt?_of_ne_checkout
        (fun begun hbegun => hcheckout ⟨begun, hbegun⟩) hattempt
      rcases keeps_of_stride hgoing (hconfined.kept hbefore hgoing) hstride with
        ⟨-, hkeeps⟩ | ⟨-, -, hentering, -⟩
      · exact hkeeps
      · rw [hentering] at hattempt
        contradiction

theorem confined_of_reachable (hreach : Reachable engine session) :
    Confined engine session := by
  refine hreach.induction (motive := Confined engine) ?_ ?_
  · intro world setup sources first hstart
    obtain ⟨installation, -, rfl⟩ := start_eq_ok hstart
    exact ⟨by simp [AllBooked], by simp⟩
  · intro session action next hreach hturn hconfined
    have hseated := seated_of_reachable hreach
    exact ⟨booked_of_turn (filed_of_reachable hreach) hseated hconfined.booked hturn,
      kept_of_turn hseated (attended_of_reachable hreach) hconfined hturn⟩

/-! ## Following one attempt -/

/-- An attempt stays on record. -/
theorem mem_attempts_of_turn (hturn : Turn engine session action next) {job : Nat}
    {trace : Trace} (htrace : session.traces[job]? = some trace)
    (hmem : attempt ∈ trace.attempts) :
    ∃ later, next.traces[job]? = some later ∧ attempt ∈ later.attempts := by
  by_cases hwork : ∃ time, action = .work time job
  · obtain ⟨time, rfl⟩ := hwork
    cases hturn with
    | @work _ _ renderer events hstep =>
        refine ⟨trace.add ((renderer.jobs[job]?).map Job.stage) events, ?_, ?_⟩
        · simp [htrace]
        · simp only [Trace.add]
          split
          · exact List.mem_cons_of_mem _ hmem
          · exact hmem
  · exact ⟨trace, trace_of_turn hturn htrace fun time haction => hwork ⟨time, haction⟩, hmem⟩

/-- An attempt that is over was answered. -/
theorem Keeps.cases_stage {stage : Stage Environment}
    (hkeeps : Keeps engine session call attempt stage) :
    stage.attempt? = some attempt ∨ ∃ result, stage = .finished result := by
  cases hkeeps with
  | waiting => exact .inl rfl
  | working => exact .inl rfl
  | worked hphase hworks hstage =>
      rw [← hstage]
      exact .inl Renderer.attempt?_stageAfterWork
  | refused => exact .inr ⟨_, rfl⟩
  | concluded => exact .inr ⟨_, rfl⟩

/-- What has become of an attempt: the call is still in it or has its answer from it, or
the pool was shut down and the call, a render, has started over. -/
inductive Outcome (engine : Engine World Environment) (session : Session World Environment)
    (begun : Job Environment) (attempt : Attempt) (now : Job Environment) : Prop
  | kept (hcall : now.call = begun.call) (hretried : now.retried = begun.retried)
      (hkeeps : Keeps engine session begun.call attempt now.stage) :
      Outcome engine session begun attempt now
  | startedOver (hcall : now.call = begun.call) (hbegun : begun.retried = false)
      (hretried : now.retried = true) (haway : session.PhaseIs attempt (.refused .poolShutdown)) :
      Outcome engine session begun attempt now

theorem Outcome.call_eq {begun now : Job Environment}
    (houtcome : Outcome engine session begun attempt now) : now.call = begun.call := by
  cases houtcome with
  | kept hcall => exact hcall
  | startedOver hcall => exact hcall

/-- A call that has started over does so no more. -/
theorem retried_of_stride {renderer : Renderer World Environment} {job : Nat}
    {before after : Job Environment} {events : List Log.Event}
    (hstride : Renderer.Stride engine session.renderer job before after renderer events)
    (hretried : before.retried = true) : after.retried = true := by
  cases hstride with
  | startOver hphase => rfl
  | _ => exact hretried

theorem stride_of_finished {renderer : Renderer World Environment} {job : Nat}
    {before after : Job Environment} {events : List Log.Event}
    (hstride : Renderer.Stride engine session.renderer job before after renderer events)
    (result : Except RenderError Answer) : before.stage ≠ .finished result := by
  cases hstride <;> simp

theorem outcome_of_turn (hseated : session.Seated) (hattended : session.Attended)
    (hturn : Turn engine session action next) {job : Nat} {begun now : Job Environment}
    {trace : Trace} (hnow : session.renderer.jobs[job]? = some now)
    (htrace : session.traces[job]? = some trace) (hmem : attempt ∈ trace.attempts)
    (houtcome : Outcome engine session begun attempt now) :
    ∃ after, next.renderer.jobs[job]? = some after ∧ Outcome engine next begun attempt after := by
  obtain ⟨after, hafter, -⟩ := exists_job_of_turn hturn hnow
  refine ⟨after, hafter, ?_⟩
  rcases job_cases_of_turn hturn hafter with
    ⟨hother, hold⟩ | ⟨hlength, -⟩ | ⟨time, before, events, rfl, hbefore, hstride⟩
  · obtain rfl := Option.some.inj (hnow.symm.trans hold)
    cases houtcome with
    | kept hcall hretried hkeeps =>
        exact .kept hcall hretried (hkeeps.turn hseated hattended hturn htrace hmem hother)
    | startedOver hcall hbegun hretried haway =>
        exact .startedOver hcall hbegun hretried (phaseOf?_of_isFinal hturn haway trivial)
  · have hlt := (List.getElem?_eq_some_iff.1 hnow).1
    omega
  · obtain rfl := Option.some.inj (hnow.symm.trans hbefore)
    cases houtcome with
    | kept hcall hretried hkeeps =>
        rcases hkeeps.cases_stage with hattempt | ⟨result, hfinished⟩
        · rw [← hcall] at hkeeps
          rcases keeps_of_stride hattempt hkeeps hstride with
            ⟨hsame, hafterKeeps⟩ | ⟨hbegun, hagain, -, haway⟩
          · refine .kept (hstride.call_eq.trans hcall) (hsame.trans hretried) ?_
            rw [← hcall, ← hstride.call_eq]
            exact hafterKeeps
          · exact .startedOver (hstride.call_eq.trans hcall) (hretried ▸ hbegun) hagain
              (phaseOf?_of_isFinal hturn haway trivial)
        · exact absurd hfinished (stride_of_finished hstride result)
    | startedOver hcall hbegun hretried haway =>
        exact .startedOver (hstride.call_eq.trans hcall) hbegun
          (retried_of_stride hstride hretried) (phaseOf?_of_isFinal hturn haway trivial)

/-- Whatever is put in place meanwhile, a call that is in an attempt goes on in the
installation of this attempt until it has its answer from there, or is sent away by the
pool there. -/
theorem outcome_of_reaches (hreach : Reachable engine session) {job : Nat}
    {begun : Job Environment} (hjob : session.renderer.jobs[job]? = some begun)
    (hattempt : begun.stage.attempt? = some attempt) (hlater : Reaches engine session later) :
    ∃ now, later.renderer.jobs[job]? = some now ∧ later.Booked begun.call attempt ∧
      Outcome engine later begun attempt now := by
  have hrun : ∃ now trace, later.renderer.jobs[job]? = some now ∧
      later.traces[job]? = some trace ∧ attempt ∈ trace.attempts ∧
      Outcome engine later begun attempt now := by
    induction hlater with
    | refl =>
        obtain ⟨rest, log, htrace⟩ := (seated_of_reachable hreach).current hjob hattempt
        exact ⟨begun, _, hjob, htrace, List.mem_cons_self,
          .kept rfl rfl ((confined_of_reachable hreach).kept hjob hattempt)⟩
    | tail hbefore hturn ih =>
        obtain ⟨action, hturn⟩ := hturn
        obtain ⟨now, trace, hnow, htrace, hmem, houtcome⟩ := ih
        have hbetween := hreach.trans hbefore
        obtain ⟨after, hafter, hafterOutcome⟩ := outcome_of_turn (seated_of_reachable hbetween)
          (attended_of_reachable hbetween) hturn hnow htrace hmem houtcome
        obtain ⟨record, hrecord, hrecorded⟩ := mem_attempts_of_turn hturn htrace hmem
        exact ⟨after, record, hafter, hrecord, hrecorded, hafterOutcome⟩
  obtain ⟨now, trace, hnow, htrace, hmem, houtcome⟩ := hrun
  have hbooked := (confined_of_reachable (hreach.trans hlater)).booked hnow htrace hmem
  rw [houtcome.call_eq] at hbooked
  exact ⟨now, hnow, hbooked, houtcome⟩

end ServerRender.Session
