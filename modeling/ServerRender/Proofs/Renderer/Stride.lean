import ServerRender.Proofs.Pool.Move
import ServerRender.Renderer

/-!
# Strides of a call

Every step of a call is one of the strides listed here, with all that it depends on
and all that it changes.  A stride changes nothing of the other calls, no cache, and
of the desks only the place of the call itself.
-/

namespace ServerRender

variable {World Environment : Type}

def Call.wrapper (template : Template) : Call → String
  | .render component urlPath props => template.wrapperScript ⟨component, urlPath, props⟩
  | .load _ => ""

def Stage.attempt? : Stage Environment → Option Attempt
  | .checkout attempt => some attempt
  | .working attempt _ => some attempt
  | .prepared attempt => some attempt
  | .leaving attempt _ => some attempt
  | _ => none

theorem Stage.attempt?_of_working {stage : Stage Environment} {attempt : Attempt}
    {reply : Reply (ExecutionContext Environment) (Except EngineError Work)}
    (hworking : stage = .working attempt reply) : stage.attempt? = some attempt := by
  rw [hworking]
  rfl

namespace Renderer

def caches (renderer : Renderer World Environment) : List CodeCache :=
  renderer.installations.map Installation.cache

def templates (renderer : Renderer World Environment) : List Template :=
  renderer.installations.map Installation.template

def desks (renderer : Renderer World Environment) :
    List (Pool.Desk (ExecutionContext Environment)) :=
  renderer.installations.map Installation.desk

def phaseOf? (renderer : Renderer World Environment) (installation caller : Nat) :
    Option (Pool.Phase (ExecutionContext Environment)) :=
  (renderer.desks[installation]?).bind fun desk => desk.phase? caller

def HasContext (renderer : Renderer World Environment) (installation : Nat)
    (context : ExecutionContext Environment) : Prop :=
  ∃ desk, renderer.desks[installation]? = some desk ∧ context ∈ desk.contexts

def setCache (renderer : Renderer World Environment) (installation : Nat)
    (cache : CodeCache) : Renderer World Environment :=
  { renderer with
    installations := renderer.installations.modify installation fun i => { i with cache } }

theorem cache_of_installation {renderer : Renderer World Environment} {index : Nat}
    {installation : Installation Environment}
    (hinstallation : renderer.installations[index]? = some installation) :
    renderer.caches[index]? = some installation.cache := by
  simp [caches, hinstallation]

theorem desk_of_installation {renderer : Renderer World Environment} {index : Nat}
    {installation : Installation Environment}
    (hinstallation : renderer.installations[index]? = some installation) :
    renderer.desks[index]? = some installation.desk := by
  simp [desks, hinstallation]

theorem phaseOf?_of_desk {renderer : Renderer World Environment} {index : Nat}
    {desk : Pool.Desk (ExecutionContext Environment)}
    (hdesk : renderer.desks[index]? = some desk) (caller : Nat) :
    renderer.phaseOf? index caller = desk.phase? caller := by
  simp [phaseOf?, hdesk]

theorem phaseOf?_of_installation {renderer : Renderer World Environment} {index : Nat}
    {installation : Installation Environment}
    (hinstallation : renderer.installations[index]? = some installation) (caller : Nat) :
    renderer.phaseOf? index caller = installation.desk.phase? caller :=
  phaseOf?_of_desk (desk_of_installation hinstallation) caller

theorem hasContext_of_phaseOf? {renderer : Renderer World Environment} {index caller : Nat}
    {context : ExecutionContext Environment}
    (hphase : renderer.phaseOf? index caller = some (.holding context)) :
    renderer.HasContext index context := by
  obtain ⟨desk, hdesk, hheld⟩ := Option.bind_eq_some_iff.1 hphase
  exact ⟨desk, hdesk, Pool.Desk.mem_contexts_of_phase? hheld⟩

theorem contextOf?_eq_some_iff {renderer : Renderer World Environment} {attempt : Attempt}
    {context : ExecutionContext Environment} :
    renderer.contextOf? attempt = some context ↔
      renderer.phaseOf? attempt.installation attempt.caller = some (.holding context) := by
  simp only [contextOf?, phaseOf?, desks, List.getElem?_map, Option.bind_eq_bind,
    Option.bind_map, Option.bind_eq_some_iff]
  constructor
  · rintro ⟨installation, hinstallation, phase, hphase, hcontext⟩
    cases phase with
    | holding held =>
        obtain rfl := Option.some.inj hcontext
        exact ⟨installation, hinstallation, hphase⟩
    | _ => contradiction
  · rintro ⟨installation, hinstallation, hphase⟩
    exact ⟨installation, hinstallation, _, hphase, rfl⟩

section SetStage

variable {renderer : Renderer World Environment} {job : Nat} {stage : Stage Environment}

@[simp]
theorem length_jobs_setStage :
    (renderer.setStage job stage).jobs.length = renderer.jobs.length := by
  simp [setStage]

theorem job_setStage_self {state : Job Environment} (hjob : renderer.jobs[job]? = some state) :
    (renderer.setStage job stage).jobs[job]? = some { state with stage } := by
  simp [setStage, hjob]

theorem job_setStage_of_ne {other : Nat} (hne : job ≠ other) :
    (renderer.setStage job stage).jobs[other]? = renderer.jobs[other]? := by
  simp [setStage, hne]

end SetStage

section SetDesk

variable {renderer : Renderer World Environment} {index : Nat}
variable {desk : Pool.Desk (ExecutionContext Environment)}

@[simp]
theorem caches_setDesk : (renderer.setDesk index desk).caches = renderer.caches :=
  map_modify_of_same _ _ fun _ => rfl

@[simp]
theorem templates_setDesk : (renderer.setDesk index desk).templates = renderer.templates :=
  map_modify_of_same _ _ fun _ => rfl

theorem desks_setDesk :
    (renderer.setDesk index desk).desks = renderer.desks.set index desk := by
  rw [← modify_const]
  exact map_modify _ _ fun _ => rfl

theorem desk_setDesk_self {before : Pool.Desk (ExecutionContext Environment)}
    (hdesk : renderer.desks[index]? = some before) :
    (renderer.setDesk index desk).desks[index]? = some desk := by
  rw [desks_setDesk, List.getElem?_set_self (List.getElem?_eq_some_iff.1 hdesk).1]

theorem desk_setDesk_of_ne {other : Nat} (hne : index ≠ other) :
    (renderer.setDesk index desk).desks[other]? = renderer.desks[other]? := by
  rw [desks_setDesk, List.getElem?_set_ne hne]

theorem phaseOf?_setDesk_self {before : Pool.Desk (ExecutionContext Environment)}
    (hdesk : renderer.desks[index]? = some before) (caller : Nat) :
    (renderer.setDesk index desk).phaseOf? index caller = desk.phase? caller :=
  phaseOf?_of_desk (desk_setDesk_self hdesk) caller

/-- A call gives the context that it holds the state that the engine has left it in. -/
theorem phaseOf?_updateHeld {installation : Installation Environment} {caller : Nat}
    {context : ExecutionContext Environment}
    (hinstallation : renderer.installations[index]? = some installation)
    (hphase : renderer.phaseOf? index caller = some (.holding context))
    (worked : ExecutionContext Environment) :
    (renderer.setDesk index (installation.desk.updateHeld caller worked)).phaseOf? index
      caller = some (.holding worked) := by
  have hdesk := desk_of_installation hinstallation
  rw [phaseOf?_of_desk hdesk] at hphase
  rw [phaseOf?_setDesk_self hdesk, Pool.Desk.updateHeld_of_holding hphase]
  exact Pool.Desk.phase?_setPhase_self hphase

/-- A call that has given its context back. -/
theorem phaseOf?_release {installation : Installation Environment} {caller : Nat}
    (hinstallation : renderer.installations[index]? = some installation)
    (hmove : installation.desk.Move (.release caller) desk) :
    (renderer.setDesk index desk).phaseOf? index caller = some .returned := by
  rw [phaseOf?_setDesk_self (desk_of_installation hinstallation)]
  cases hmove with
  | release hheld => exact Pool.Desk.phase?_setPhase_self hheld

theorem phaseOf?_setDesk_of_ne {other : Nat} (hne : index ≠ other) (caller : Nat) :
    (renderer.setDesk index desk).phaseOf? other caller = renderer.phaseOf? other caller := by
  rw [phaseOf?, phaseOf?, desk_setDesk_of_ne hne]

theorem hasContext_setDesk {other : Nat} {context : ExecutionContext Environment}
    (hcontext : (renderer.setDesk index desk).HasContext other context) :
    renderer.HasContext other context ∨ index = other ∧ context ∈ desk.contexts := by
  obtain ⟨found, hfound, hmem⟩ := hcontext
  rw [desks_setDesk] at hfound
  rcases getElem?_set_cases hfound with ⟨hindex, rfl⟩ | ⟨-, hold⟩
  · exact .inr ⟨hindex, hmem⟩
  · exact .inl ⟨found, hold, hmem⟩

/-- Nobody is sent away from a desk. -/
theorem exists_phaseOf?_setDesk {before : Pool.Desk (ExecutionContext Environment)}
    {other caller : Nat} {phase : Pool.Phase (ExecutionContext Environment)}
    (hdesk : renderer.desks[index]? = some before)
    (hle : before.callers.length ≤ desk.callers.length)
    (hphase : renderer.phaseOf? other caller = some phase) :
    ∃ after, (renderer.setDesk index desk).phaseOf? other caller = some after := by
  by_cases hindex : index = other
  · subst hindex
    rw [phaseOf?_of_desk hdesk] at hphase
    rw [phaseOf?_setDesk_self hdesk]
    exact Pool.Desk.exists_phase? (Nat.lt_of_lt_of_le (Pool.Desk.phase?_lt hphase) hle)
  · exact ⟨phase, (phaseOf?_setDesk_of_ne hindex caller).trans hphase⟩

end SetDesk

section SetCache

variable {renderer : Renderer World Environment} {index : Nat} {cache : CodeCache}

@[simp]
theorem templates_setCache :
    (renderer.setCache index cache).templates = renderer.templates :=
  map_modify_of_same _ _ fun _ => rfl

theorem caches_setCache :
    (renderer.setCache index cache).caches = renderer.caches.set index cache := by
  rw [← modify_const]
  exact map_modify _ _ fun _ => rfl

@[simp]
theorem desks_setCache : (renderer.setCache index cache).desks = renderer.desks :=
  map_modify_of_same _ _ fun _ => rfl

end SetCache

section Install

variable {renderer : Renderer World Environment} {fresh : Installation Environment}

theorem caches_install : (renderer.install fresh).caches = renderer.caches ++ [fresh.cache] := by
  simp only [caches, install, List.map_append]
  exact congrArg (· ++ [fresh.cache]) (map_modify_of_same _ _ fun _ => rfl)

theorem templates_install :
    (renderer.install fresh).templates = renderer.templates ++ [fresh.template] := by
  simp only [templates, install, List.map_append]
  exact congrArg (· ++ [fresh.template]) (map_modify_of_same _ _ fun _ => rfl)

theorem desks_install :
    (renderer.install fresh).desks =
      renderer.desks.modify (renderer.installations.length - 1) Pool.Desk.shutdown ++
        [fresh.desk] := by
  simp only [desks, install, List.map_append]
  exact congrArg (· ++ [fresh.desk]) (map_modify _ _ fun _ => rfl)

/-- Closing a pool leaves its callers where they are. -/
theorem phaseOf?_install {index caller : Nat}
    {phase : Pool.Phase (ExecutionContext Environment)}
    (hphase : renderer.phaseOf? index caller = some phase) :
    (renderer.install fresh).phaseOf? index caller = some phase := by
  obtain ⟨desk, hdesk, hcaller⟩ := Option.bind_eq_some_iff.1 hphase
  have hlt := (List.getElem?_eq_some_iff.1 hdesk).1
  rw [phaseOf?, desks_install, List.getElem?_append_left (by simpa using hlt),
    List.getElem?_modify, hdesk]
  by_cases hindex : renderer.installations.length - 1 = index
  · simpa [hindex, Pool.Desk.phase?, Pool.Desk.shutdown] using hcaller
  · simpa [hindex] using hcaller

theorem hasContext_install {index : Nat} {context : ExecutionContext Environment}
    (hcontext : (renderer.install fresh).HasContext index context) :
    renderer.HasContext index context ∨ context ∈ fresh.desk.contexts := by
  obtain ⟨desk, hdesk, hmem⟩ := hcontext
  rw [desks_install] at hdesk
  rcases getElem?_append_cases hdesk with hold | ⟨-, rfl⟩
  · rw [List.getElem?_modify] at hold
    obtain ⟨before, hbefore, rfl⟩ := Option.map_eq_some_iff.1 hold
    refine .inl ⟨before, hbefore, ?_⟩
    split at hmem
    · exact (Pool.Desk.mem_contexts_of_move .shutdown hmem).resolve_right (by simp)
    · exact hmem
  · exact .inr hmem

end Install

/-! ## The strides -/

/-- What one step of a call does, whose state is the first one before and the second one
after it. -/
inductive Stride (engine : Engine World Environment) (renderer : Renderer World Environment)
    (job : Nat) : Job Environment → Job Environment → Renderer World Environment →
      List Log.Event → Prop
  | enter {call : Call} {retried : Bool} :
      Stride engine renderer job ⟨call, retried, .entering⟩
        ⟨call, retried, .entered (renderer.installations.length - 1)⟩
        (renderer.setStage job (.entered (renderer.installations.length - 1))) []
  /-- The cache has no bundle of the component. -/
  | missing {call : Call} {retried : Bool} {index : Nat}
      {installation : Installation Environment}
      (hinstallation : renderer.installations[index]? = some installation)
      (hget : installation.cache.bundles.get? call.component = none) :
      Stride engine renderer job ⟨call, retried, .entered index⟩
        ⟨call, retried, .finished (.error (.componentNotFound call.component))⟩
        (renderer.setStage job (.finished (.error (.componentNotFound call.component)))) []
  | arrive {call : Call} {retried : Bool} {index : Nat}
      {installation : Installation Environment} {bundle : CodeBundle} (time : Nat)
      (hinstallation : renderer.installations[index]? = some installation)
      (hget : installation.cache.bundles.get? call.component = some bundle) :
      Stride engine renderer job ⟨call, retried, .entered index⟩
        ⟨call, retried, .checkout ⟨index, installation.desk.callers.length, bundle,
          call.wrapper installation.template⟩⟩
        ((renderer.setDesk index (installation.desk.arrive time installation.millis)).setStage
          job (.checkout ⟨index, installation.desk.callers.length, bundle,
            call.wrapper installation.template⟩)) []
  | startLoad {call : Call} {retried : Bool} {attempt : Attempt}
      {context : ExecutionContext Environment}
      (hphase : renderer.phaseOf? attempt.installation attempt.caller =
        some (.holding context)) :
      Stride engine renderer job ⟨call, retried, .checkout attempt⟩
        ⟨call, retried, .working attempt
          ((context.ensureLoaded engine renderer.world attempt.bundle).2.map id
            fun outcome : Except EngineError Bool => outcome.map .loaded)⟩
        (renderer.startWork job attempt .loaded
          (context.ensureLoaded engine renderer.world attempt.bundle)) []
  | startOver {component urlPath props : String} {attempt : Attempt}
      (hphase : renderer.phaseOf? attempt.installation attempt.caller =
        some (.refused .poolShutdown)) :
      Stride engine renderer job ⟨.render component urlPath props, false, .checkout attempt⟩
        ⟨.render component urlPath props, true, .entering⟩
        { renderer with
          jobs := renderer.jobs.set job ⟨.render component urlPath props, true, .entering⟩ } []
  | refused {call : Call} {retried : Bool} {attempt : Attempt} {error : RenderError}
      (hphase : renderer.phaseOf? attempt.installation attempt.caller =
        some (.refused error))
      (hfinal : error = .poolShutdown → retried = true ∨ ∃ component, call = .load component) :
      Stride engine renderer job ⟨call, retried, .checkout attempt⟩
        ⟨call, retried, .finished (.error error)⟩
        (renderer.setStage job (.finished (.error error))) []
  | startEval {call : Call} {retried : Bool} {attempt : Attempt}
      {context : ExecutionContext Environment}
      (hphase : renderer.phaseOf? attempt.installation attempt.caller =
        some (.holding context)) :
      Stride engine renderer job ⟨call, retried, .prepared attempt⟩
        ⟨call, retried, .working attempt
          ((context.evaluate engine renderer.world attempt.bundle.component
            attempt.wrapper).2.map id
              fun outcome : Except EngineError Json => outcome.map .value)⟩
        (renderer.startWork job attempt .value
          (context.evaluate engine renderer.world attempt.bundle.component
            attempt.wrapper)) []
  | endWork {call : Call} {retried : Bool} {attempt : Attempt}
      {reply : Reply (ExecutionContext Environment) (Except EngineError Work)}
      {installation : Installation Environment}
      (hgates : reply.gates.all (engine.isOpen renderer.world) = true)
      (hinstallation : renderer.installations[attempt.installation]? = some installation) :
      Stride engine renderer job ⟨call, retried, .working attempt reply⟩
        ⟨call, retried, stageAfterWork call attempt reply.outcome⟩
        ((renderer.setDesk attempt.installation
          (installation.desk.updateHeld attempt.caller reply.after)).setStage job
            (stageAfterWork call attempt reply.outcome)) reply.events
  | leave {call : Call} {retried : Bool} {attempt : Attempt}
      {result : Except EngineError Answer} {installation : Installation Environment}
      {desk : Pool.Desk (ExecutionContext Environment)}
      (hinstallation : renderer.installations[attempt.installation]? = some installation)
      (hmove : installation.desk.Move (.release attempt.caller) desk) :
      Stride engine renderer job ⟨call, retried, .leaving attempt result⟩
        ⟨call, retried, .finished (concludeCall installation call attempt result).1⟩
        ((renderer.setDesk attempt.installation desk).setStage job
          (.finished (concludeCall installation call attempt result).1))
        (concludeCall installation call attempt result).2

section Step

variable {engine : Engine World Environment} {renderer next : Renderer World Environment}
variable {time job : Nat} {call : Call} {retried : Bool} {events : List Log.Event}

private theorem exists_stride_of_takeBundle {index : Nat}
    {installation : Installation Environment}
    (hinstallation : renderer.installations[index]? = some installation) :
    ∃ after, Stride engine renderer job ⟨call, retried, .entered index⟩ after
      (renderer.takeBundle time job call index installation) [] := by
  cases hget : installation.cache.bundles.get? call.component with
  | none =>
      simp only [takeBundle, CodeCache.get, hget]
      exact ⟨_, .missing hinstallation hget⟩
  | some bundle =>
      simp only [takeBundle, CodeCache.get, hget]
      cases call <;> exact ⟨_, .arrive time hinstallation hget⟩

private theorem exists_stride_of_refuse {attempt : Attempt} {error : RenderError}
    (hphase : renderer.phaseOf? attempt.installation attempt.caller = some (.refused error)) :
    ∃ after, Stride engine renderer job ⟨call, retried, .checkout attempt⟩ after
      (renderer.refuse job ⟨call, retried, .checkout attempt⟩ error) [] := by
  simp only [refuse]
  split
  · exact ⟨_, .startOver hphase⟩
  · next hother =>
      refine ⟨_, .refused hphase fun hshutdown => ?_⟩
      cases call with
      | load component => exact .inr ⟨component, rfl⟩
      | render component urlPath props =>
          cases retried with
          | true => exact .inl rfl
          | false => exact absurd rfl (hother component urlPath props hshutdown rfl)

theorem exists_stride_of_step (hstep : renderer.step engine time job = some (next, events)) :
    ∃ before after, renderer.jobs[job]? = some before ∧
      Stride engine renderer job before after next events := by
  simp only [step, Option.bind_eq_bind, Option.bind_eq_some_iff] at hstep
  obtain ⟨⟨call, retried, stage⟩, hjob, hstep⟩ := hstep
  cases stage with
  | entering =>
      obtain ⟨rfl, rfl⟩ := Prod.mk.inj (Option.some.inj hstep)
      exact ⟨_, _, hjob, .enter⟩
  | entered index =>
      obtain ⟨installation, hinstallation, hstep⟩ := Option.bind_eq_some_iff.1 hstep
      obtain ⟨rfl, rfl⟩ := Prod.mk.inj (Option.some.inj hstep)
      exact ⟨_, (exists_stride_of_takeBundle hinstallation).imp fun _ h => ⟨hjob, h⟩⟩
  | checkout attempt =>
      obtain ⟨installation, hinstallation, hstep⟩ := Option.bind_eq_some_iff.1 hstep
      obtain ⟨phase, hphase, hstep⟩ := Option.bind_eq_some_iff.1 hstep
      rw [← phaseOf?_of_installation hinstallation] at hphase
      cases phase with
      | holding context =>
          obtain ⟨rfl, rfl⟩ := Prod.mk.inj (Option.some.inj hstep)
          exact ⟨_, _, hjob, .startLoad hphase⟩
      | refused error =>
          obtain ⟨rfl, rfl⟩ := Prod.mk.inj (Option.some.inj hstep)
          exact ⟨_, (exists_stride_of_refuse hphase).imp fun _ h => ⟨hjob, h⟩⟩
      | _ => contradiction
  | working attempt reply =>
      simp only at hstep
      split at hstep
      · next hgates =>
          obtain ⟨installation, hinstallation, hstep⟩ := Option.bind_eq_some_iff.1 hstep
          obtain ⟨rfl, rfl⟩ := Prod.mk.inj (Option.some.inj hstep)
          exact ⟨_, _, hjob, .endWork hgates hinstallation⟩
      · contradiction
  | prepared attempt =>
      obtain ⟨context, hcontext, hstep⟩ := Option.bind_eq_some_iff.1 hstep
      obtain ⟨rfl, rfl⟩ := Prod.mk.inj (Option.some.inj hstep)
      exact ⟨_, _, hjob, .startEval (contextOf?_eq_some_iff.1 hcontext)⟩
  | leaving attempt result =>
      obtain ⟨installation, hinstallation, hstep⟩ := Option.bind_eq_some_iff.1 hstep
      obtain ⟨⟨desk, _⟩, hrelease, hstep⟩ := Option.bind_eq_some_iff.1 hstep
      obtain ⟨rfl, rfl⟩ := Prod.mk.inj (Option.some.inj hstep)
      exact ⟨_, _, hjob, .leave hinstallation (Pool.Desk.move_of_step hrelease)⟩
  | finished result => contradiction

end Step

section StageAfterWork

variable {call : Call} {attempt : Attempt} {outcome : Except EngineError Work}

@[simp]
theorem attempt?_stageAfterWork :
    (stageAfterWork call attempt outcome : Stage Environment).attempt? = some attempt := by
  cases outcome with
  | error error => rfl
  | ok work =>
      cases work with
      | value result => rfl
      | loaded now => cases call <;> rfl

theorem stageAfterWork_ne_checkout (other : Attempt) :
    (stageAfterWork call attempt outcome : Stage Environment) ≠ .checkout other := by
  cases outcome with
  | error error => simp [stageAfterWork]
  | ok work =>
      cases work with
      | value result => simp [stageAfterWork]
      | loaded now => cases call <;> simp [stageAfterWork]

theorem stageAfterWork_ne_working (other : Attempt)
    (reply : Reply (ExecutionContext Environment) (Except EngineError Work)) :
    stageAfterWork call attempt outcome ≠ .working other reply := by
  cases outcome with
  | error error => simp [stageAfterWork]
  | ok work =>
      cases work with
      | value result => simp [stageAfterWork]
      | loaded now => cases call <;> simp [stageAfterWork]

/-- A call whose engine thread has answered is still inside its attempt. -/
theorem stageAfterWork_ne_of_none {stage : Stage Environment} (hnone : stage.attempt? = none) :
    stageAfterWork call attempt outcome ≠ stage := by
  rintro rfl
  rw [attempt?_stageAfterWork] at hnone
  contradiction

end StageAfterWork

/-! ## What strides keep -/

namespace Stride

variable {engine : Engine World Environment} {renderer next : Renderer World Environment}
variable {job : Nat} {before after : Job Environment} {events : List Log.Event}

theorem job_eq (hstride : Stride engine renderer job before after next events)
    (hjob : renderer.jobs[job]? = some before) : next.jobs[job]? = some after := by
  cases hstride with
  | startOver hphase => exact List.getElem?_set_self (List.getElem?_eq_some_iff.1 hjob).1
  | _ => exact job_setStage_self hjob

theorem job_of_ne (hstride : Stride engine renderer job before after next events)
    {other : Nat} (hne : job ≠ other) : next.jobs[other]? = renderer.jobs[other]? := by
  cases hstride with
  | startOver hphase => simp [hne]
  | _ => exact job_setStage_of_ne hne

theorem length_jobs (hstride : Stride engine renderer job before after next events) :
    next.jobs.length = renderer.jobs.length := by
  cases hstride with
  | startOver hphase => simp
  | _ => exact length_jobs_setStage

theorem call_eq (hstride : Stride engine renderer job before after next events) :
    after.call = before.call := by
  cases hstride <;> rfl

/-- The only stride that begins an attempt is the one up to the pool, where the call
takes the bundle that the cache has just then and becomes the latest of the callers. -/
theorem exists_installation_of_checkout
    (hstride : Stride engine renderer job before after next events) {attempt : Attempt}
    (hcheckout : after.stage = .checkout attempt) :
    ∃ installation, before.stage = .entered attempt.installation ∧
      renderer.installations[attempt.installation]? = some installation ∧
      installation.cache.bundles.get? after.call.component = some attempt.bundle ∧
      attempt.caller = installation.desk.callers.length ∧
      attempt.wrapper = after.call.wrapper installation.template ∧
      next.phaseOf? attempt.installation attempt.caller = some .looking := by
  cases hstride with
  | arrive time hinstallation hget =>
      obtain rfl := Stage.checkout.inj hcheckout
      refine ⟨_, rfl, hinstallation, hget, rfl, rfl, ?_⟩
      refine (phaseOf?_setDesk_self (desk_of_installation hinstallation) _).trans ?_
      simp [Pool.Desk.phase?, Pool.Desk.arrive]
  | endWork hgates hinstallation => exact absurd hcheckout (stageAfterWork_ne_checkout _)
  | _ => contradiction

theorem attempt?_of_ne_checkout
    (hstride : Stride engine renderer job before after next events)
    (hcheckout : ∀ attempt, after.stage ≠ .checkout attempt) {attempt : Attempt}
    (hattempt : after.stage.attempt? = some attempt) :
    before.stage.attempt? = some attempt := by
  cases hstride with
  | arrive time hinstallation hget => exact absurd rfl (hcheckout _)
  | endWork hgates hinstallation => exact attempt?_stageAfterWork.symm.trans hattempt
  | startLoad hphase => exact hattempt
  | startEval hphase => exact hattempt
  | _ => contradiction

/-- A call enters the installation that is current. -/
theorem index_of_entered (hstride : Stride engine renderer job before after next events)
    {index : Nat} (hentered : after.stage = .entered index) :
    index = renderer.installations.length - 1 := by
  cases hstride with
  | enter => exact (Stage.entered.inj hentered).symm
  | endWork hgates hinstallation => exact absurd hentered (stageAfterWork_ne_of_none rfl)
  | _ => contradiction

theorem caches_eq (hstride : Stride engine renderer job before after next events) :
    next.caches = renderer.caches := by
  cases hstride with
  | arrive => exact caches_setDesk
  | endWork => exact caches_setDesk
  | leave => exact caches_setDesk
  | _ => rfl

theorem templates_eq (hstride : Stride engine renderer job before after next events) :
    next.templates = renderer.templates := by
  cases hstride with
  | arrive => exact templates_setDesk
  | endWork => exact templates_setDesk
  | leave => exact templates_setDesk
  | _ => rfl

/-- The place of another caller stays as it is, and so does an answer that a caller has
got. -/
theorem phaseOf?_of_other (hstride : Stride engine renderer job before after next events)
    {index caller : Nat} {phase : Pool.Phase (ExecutionContext Environment)}
    (hphase : renderer.phaseOf? index caller = some phase)
    (hother : ∀ attempt, before.stage.attempt? = some attempt →
      attempt.installation = index → attempt.caller ≠ caller ∨ phase.IsFinal) :
    next.phaseOf? index caller = some phase := by
  cases hstride with
  | @arrive call retried place installation bundle time hinstallation hget =>
      by_cases hindex : place = index
      · subst hindex
        have hdesk := desk_of_installation hinstallation
        rw [phaseOf?_of_desk hdesk] at hphase
        exact (phaseOf?_setDesk_self hdesk caller).trans
          (Pool.Desk.phase?_arrive time installation.millis hphase)
      · exact (phaseOf?_setDesk_of_ne hindex caller).trans hphase
  | @endWork call retried attempt reply installation hgates hinstallation =>
      by_cases hindex : attempt.installation = index
      · have hcases := hother _ rfl hindex
        subst hindex
        have hdesk := desk_of_installation hinstallation
        rw [phaseOf?_of_desk hdesk] at hphase
        refine (phaseOf?_setDesk_self hdesk caller).trans ?_
        rcases hcases with hcaller | hfinal
        · exact (Pool.Desk.phase?_updateHeld_of_ne reply.after hcaller).trans hphase
        · exact Pool.Desk.phase?_updateHeld_of_isFinal hphase hfinal _ _
      · exact (phaseOf?_setDesk_of_ne hindex caller).trans hphase
  | @leave call retried attempt result installation desk hinstallation hmove =>
      by_cases hindex : attempt.installation = index
      · have hcases := hother _ rfl hindex
        subst hindex
        have hdesk := desk_of_installation hinstallation
        rw [phaseOf?_of_desk hdesk] at hphase
        refine (phaseOf?_setDesk_self hdesk caller).trans ?_
        cases hmove with
        | release hheld =>
            have hcaller : attempt.caller ≠ caller := by
              rcases hcases with hcaller | hfinal
              · exact hcaller
              · rintro rfl
                obtain rfl := Option.some.inj (hheld.symm.trans hphase)
                exact hfinal
            exact (Pool.Desk.phase?_setPhase_of_ne hcaller).trans hphase
      · exact (phaseOf?_setDesk_of_ne hindex caller).trans hphase
  | _ => exact hphase

/-- A context that a stride brings in is the one that a call has just worked on. -/
theorem hasContext (hstride : Stride engine renderer job before after next events)
    {index : Nat} {context : ExecutionContext Environment}
    (hcontext : next.HasContext index context) :
    renderer.HasContext index context ∨
      ∃ attempt reply, before.stage = .working attempt reply ∧
        attempt.installation = index ∧ context = reply.after := by
  cases hstride with
  | arrive time hinstallation hget =>
      rcases hasContext_setDesk hcontext with hold | ⟨rfl, hmem⟩
      · exact .inl hold
      · exact .inl ⟨_, desk_of_installation hinstallation,
          Pool.Desk.mem_contexts_arrive hmem⟩
  | endWork hgates hinstallation =>
      rcases hasContext_setDesk hcontext with hold | ⟨rfl, hmem⟩
      · exact .inl hold
      rcases Pool.Desk.mem_contexts_updateHeld hmem with hmem | rfl
      · exact .inl ⟨_, desk_of_installation hinstallation, hmem⟩
      · exact .inr ⟨_, _, rfl, rfl, rfl⟩
  | leave hinstallation hmove =>
      rcases hasContext_setDesk hcontext with hold | ⟨rfl, hmem⟩
      · exact .inl hold
      rcases Pool.Desk.mem_contexts_of_move hmove hmem with hmem | ⟨maker, hmake⟩
      · exact .inl ⟨_, desk_of_installation hinstallation, hmem⟩
      · contradiction
  | _ => exact .inl hcontext

theorem exists_phaseOf? (hstride : Stride engine renderer job before after next events)
    {index caller : Nat} {phase : Pool.Phase (ExecutionContext Environment)}
    (hphase : renderer.phaseOf? index caller = some phase) :
    ∃ later, next.phaseOf? index caller = some later := by
  cases hstride with
  | arrive time hinstallation hget =>
      exact exists_phaseOf?_setDesk (desk_of_installation hinstallation)
        (by simp [Pool.Desk.arrive]) hphase
  | endWork hgates hinstallation =>
      exact exists_phaseOf?_setDesk (desk_of_installation hinstallation) (by simp) hphase
  | leave hinstallation hmove =>
      exact exists_phaseOf?_setDesk (desk_of_installation hinstallation)
        (Pool.Desk.length_callers_le_of_move hmove) hphase
  | _ => exact ⟨phase, hphase⟩

end Stride

end Renderer

end ServerRender
