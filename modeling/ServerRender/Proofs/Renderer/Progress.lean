import ServerRender.Proofs.Options.Room
import ServerRender.Proofs.Pool.Settling
import ServerRender.Proofs.Renderer.Lending
import ServerRender.Proofs.Renderer.SingleCall

/-!
# Progress of calls

A renderer runs until no call can go on at once.  The schedule gives up after some number of
steps, and this file proves that it never has to: each step brings a call nearer to its end,
also when it starts over.  The main statement is that calls never wait for each other in
vain.  If no call can go on, and the engine keeps none of them waiting, then all of them are
finished, since whoever waits at a pool waits for a context that another call has, and that
call can go on.
-/

namespace ServerRender

variable {World Environment : Type} {engine : Engine World Environment}

/-- No work has to wait for anything else to happen. -/
def Engine.NeverWaits (engine : Engine World Environment) : Prop :=
  ∀ world gate, engine.isOpen world gate = true

/-- A bound on the steps from a stage to the end of a call that does not start over. -/
def Stage.rank : Stage Environment → Nat
  | .entering => 7
  | .entered _ => 6
  | .checkout _ => 5
  | .working _ reply =>
    match reply.outcome with
    | .ok (.loaded _) => 4
    | _ => 2
  | .prepared _ => 3
  | .leaving _ _ => 1
  | .finished _ => 0

/-- A bound on the steps of a call, which may start over once. -/
def Job.rank (job : Job Environment) : Nat :=
  job.stage.rank + if job.retried then 0 else 8

theorem Stage.rank_working_le (attempt : Attempt)
    (reply : Reply (ExecutionContext Environment) (Except EngineError Work)) :
    (Stage.working attempt reply).rank ≤ 4 := by
  simp only [rank]
  split <;> omega

theorem Stage.rank_le (stage : Stage Environment) : stage.rank ≤ 7 := by
  cases stage with
  | working attempt reply =>
      have hle := rank_working_le attempt reply
      omega
  | _ => simp [rank]

theorem Stage.rank_evaluating (attempt : Attempt)
    (reply : Reply (ExecutionContext Environment) (Except EngineError Json)) :
    (Stage.working attempt (reply.map id fun outcome => outcome.map Work.value)).rank = 2 := by
  simp only [rank, Reply.map]
  cases reply.outcome <;> rfl

theorem Job.rank_le (job : Job Environment) : job.rank ≤ 15 := by
  have hle := job.stage.rank_le
  simp only [rank]
  split <;> omega

namespace Renderer

variable {renderer next : Renderer World Environment} {time job : Nat}
variable {before after : Job Environment} {events : List Log.Event}

theorem rank_stageAfterWork_lt (call : Call) (attempt : Attempt)
    (reply : Reply (ExecutionContext Environment) (Except EngineError Work)) :
    (stageAfterWork call attempt reply.outcome : Stage Environment).rank <
      (Stage.working attempt reply).rank := by
  simp only [Stage.rank]
  cases reply.outcome with
  | error cause => simp [stageAfterWork]
  | ok work =>
      cases work with
      | value result => simp [stageAfterWork]
      | loaded now => cases call <;> simp [stageAfterWork]

theorem Stride.rank_lt (hstride : Stride engine renderer job before after next events) :
    after.rank < before.rank := by
  have hstages : ∀ {call : Call} {retried : Bool} {stage later : Stage Environment},
      later.rank < stage.rank →
      (⟨call, retried, later⟩ : Job Environment).rank < (⟨call, retried, stage⟩ : Job _).rank :=
    fun hlt => Nat.add_lt_add_right hlt _
  cases hstride with
  | enter => exact hstages (Nat.lt_succ_self 6)
  | missing hinstallation hget => exact hstages (Nat.zero_lt_succ 5)
  | arrive clock hinstallation hget => exact hstages (Nat.lt_succ_self 5)
  | startLoad hphase => exact hstages (Nat.lt_succ_of_le (Stage.rank_working_le _ _))
  | startOver hphase => simp [Job.rank, Stage.rank]
  | refused hphase hfinal => exact hstages (Nat.zero_lt_succ 4)
  | startEval hphase =>
      refine hstages ?_
      rw [Stage.rank_evaluating]
      exact Nat.lt_succ_self 2
  | endWork hgates hinstallation => exact hstages (rank_stageAfterWork_lt _ _ _)
  | leave hinstallation hmove => exact hstages (Nat.zero_lt_succ 0)

theorem Stride.jobs_eq (hstride : Stride engine renderer job before after next events)
    (hbefore : renderer.jobs[job]? = some before) :
    next.jobs = renderer.jobs.set job after := by
  refine List.ext_getElem? fun other => ?_
  by_cases hsame : job = other
  · subst hsame
    rw [hstride.job_eq hbefore, List.getElem?_set_self (List.getElem?_eq_some_iff.1 hbefore).1]
  · rw [hstride.job_of_ne hsame, List.getElem?_set_ne hsame]

def rank (renderer : Renderer World Environment) : Nat :=
  (renderer.jobs.map Job.rank).sum

theorem rank_lt_of_step (hstep : renderer.step engine time job = some (next, events)) :
    next.rank < renderer.rank := by
  obtain ⟨before, after, hbefore, hstride⟩ := exists_stride_of_step hstep
  have hsum := sum_map_set hbefore Job.rank after
  have hlt := hstride.rank_lt
  rw [rank, rank, hstride.jobs_eq hbefore]
  omega

theorem rank_le (renderer : Renderer World Environment) :
    renderer.rank ≤ 15 * renderer.jobs.length :=
  sum_map_le Job.rank_le renderer.jobs

/-- What is kept whenever pools are served and whenever a call takes a step is kept by a
run. -/
theorem runSteps_induction {motive : Renderer World Environment → Prop}
    (hsettles : ∀ renderer, motive renderer → motive renderer.settleDesks.1)
    (hsteps : ∀ {renderer next : Renderer World Environment} {job : Nat}
      {events : List Log.Event}, motive renderer →
      renderer.step engine time job = some (next, events) → motive next)
    (count : Nat) (hfirst : motive renderer) :
    motive (renderer.runSteps engine time count).1 := by
  induction count generalizing renderer with
  | zero => exact hfirst
  | succ count ih =>
      simp only [runSteps]
      split
      · exact hsettles renderer hfirst
      · next next events hstep =>
          obtain ⟨job, -, hstep⟩ := List.exists_of_findSome?_eq_some hstep
          exact ih (hsteps (hsettles renderer hfirst) hstep)

theorem length_jobs_run (renderer : Renderer World Environment) (time : Nat) :
    (renderer.run engine time).1.jobs.length = renderer.jobs.length := by
  refine runSteps_induction
    (motive := fun later => later.jobs.length = renderer.jobs.length)
    (fun _ hlength => hlength) ?_ _ rfl
  intro later next job events hlength hstep
  obtain ⟨before, after, -, hstride⟩ := exists_stride_of_step hstep
  exact hstride.length_jobs.trans hlength

/-- Calls that are finished stay as they are. -/
theorem jobs_run_of_finished (hfinished : ∀ state ∈ renderer.jobs, state.IsFinished) :
    (renderer.run engine time).1.jobs = renderer.jobs := by
  refine runSteps_induction (motive := fun later => later.jobs = renderer.jobs)
    (fun _ hjobs => hjobs) ?_ _ rfl
  intro later next job events hjobs hstep
  obtain ⟨before, after, hbefore, -⟩ := exists_stride_of_step hstep
  have hmem := List.mem_of_getElem? hbefore
  rw [hjobs] at hmem
  rw [step_of_finished hbefore (hfinished before hmem)] at hstep
  contradiction

/-! ## Renderers at rest -/

/-- Nobody can go on without something else happening first. -/
structure AtRest (engine : Engine World Environment) (time : Nat)
    (renderer : Renderer World Environment) : Prop where
  desks : ∀ desk ∈ renderer.desks, desk.Settled
  jobs : ∀ job, renderer.step engine time job = none

theorem settled_of_mem_desks {desk : Pool.Desk (ExecutionContext Environment)}
    (hmem : desk ∈ renderer.settleDesks.1.desks) : desk.Settled := by
  simp only [settleDesks, desks, List.map_map, List.mem_map, Function.comp_apply] at hmem
  obtain ⟨installation, -, rfl⟩ := hmem
  exact Pool.Desk.settled_settle factory installation.desk

theorem atRest_settleDesks (hnone : renderer.settleDesks.1.stepFirst? engine time = none) :
    renderer.settleDesks.1.AtRest engine time where
  desks _ hmem := settled_of_mem_desks hmem
  jobs job := by
    by_cases hlt : job < renderer.settleDesks.1.jobs.length
    · exact List.findSome?_eq_none_iff.1 hnone job (List.mem_range.2 hlt)
    · have hjob := List.getElem?_eq_none (Nat.le_of_not_lt hlt)
      rw [step, hjob]
      rfl

theorem atRest_runSteps {count : Nat} (hlt : renderer.rank < count) :
    (renderer.runSteps engine time count).1.AtRest engine time := by
  induction count generalizing renderer with
  | zero => exact absurd hlt (Nat.not_lt_zero _)
  | succ count ih =>
      simp only [runSteps]
      split
      · next hnone => exact atRest_settleDesks hnone
      · next next events hfirst =>
          obtain ⟨job, -, hstep⟩ := List.exists_of_findSome?_eq_some hfirst
          have hrank : next.rank < renderer.settleDesks.1.rank := rank_lt_of_step hstep
          have hsame : renderer.settleDesks.1.rank = renderer.rank := rfl
          exact ih (by omega)

/-- A renderer runs until it is at rest. -/
theorem atRest_run (renderer : Renderer World Environment) (time : Nat) :
    (renderer.run engine time).1.AtRest engine time := by
  refine atRest_runSteps ?_
  have hle := renderer.rank_le
  omega

theorem returned_of_setDesk {place index caller : Nat} {installation : Installation Environment}
    {desk : Pool.Desk (ExecutionContext Environment)}
    (hinstallation : renderer.installations[place]? = some installation)
    (hdesk : place = index → desk.phase? caller = some .returned →
      installation.desk.phase? caller = some .returned)
    (hreturned : (renderer.setDesk place desk).phaseOf? index caller = some .returned) :
    renderer.phaseOf? index caller = some .returned := by
  by_cases hindex : place = index
  · have hsame := hdesk hindex
    subst hindex
    rw [phaseOf?_setDesk_self (desk_of_installation hinstallation)] at hreturned
    rw [phaseOf?_of_installation hinstallation]
    exact hsame hreturned
  · exact (phaseOf?_setDesk_of_ne hindex caller).symm.trans hreturned

/-- Only the call whose attempt it is gives a context back. -/
theorem Stride.returned (hstride : Stride engine renderer job before after next events)
    {index caller : Nat}
    (hother : ∀ attempt, before.stage.attempt? = some attempt →
      attempt.installation = index → attempt.caller ≠ caller)
    (hreturned : next.phaseOf? index caller = some .returned) :
    renderer.phaseOf? index caller = some .returned := by
  cases hstride with
  | arrive clock hinstallation hget =>
      refine returned_of_setDesk hinstallation (fun _ harrived => ?_) hreturned
      exact (Pool.Desk.phase?_arrive_cases harrived).elim (nomatch ·) id
  | endWork hgates hinstallation =>
      exact returned_of_setDesk hinstallation
        (fun _ => (Pool.Desk.phase?_updateHeld_iff rfl _ _).1) hreturned
  | leave hinstallation hmove =>
      refine returned_of_setDesk hinstallation (fun hindex hphase => ?_) hreturned
      rcases Pool.Desk.returned_of_move hmove hphase with hbefore | hrelease
      · exact hbefore
      · exact absurd (Pool.Action.release.inj hrelease) (hother _ rfl hindex)
  | _ => exact hreturned

end Renderer

namespace Session

variable {session next : Session World Environment} {action : Action World Environment}

theorem returned_of_turn (hturn : Turn engine session action next) {index caller : Nat}
    {phase : Pool.Phase (ExecutionContext Environment)}
    (hphase : session.renderer.phaseOf? index caller = some phase)
    (hother : ∀ time job state attempt, action = .work time job →
      session.renderer.jobs[job]? = some state → state.stage.attempt? = some attempt →
      attempt.installation = index → attempt.caller ≠ caller)
    (hreturned : next.renderer.phaseOf? index caller = some .returned) : phase = .returned := by
  refine Option.some.inj (hphase.symm.trans ?_)
  cases hturn with
  | @work time worker renderer events hstep =>
      obtain ⟨before, after, hbefore, hstride⟩ := Renderer.exists_stride_of_step hstep
      exact hstride.returned (fun attempt => hother time worker before attempt rfl hbefore)
        hreturned
  | serve hinstallation hserves hstep =>
      refine Renderer.returned_of_setDesk hinstallation (fun _ hserved => ?_) hreturned
      rcases Pool.Desk.returned_of_move (Pool.Desk.move_of_step hstep) hserved with
        hbefore | rfl
      · exact hbefore
      · exact hserves.elim
  | publish hchange hinstallation harchive =>
      rwa [Renderer.phaseOf?, Renderer.desks_setCache] at hreturned
  | install hrenewal =>
      rw [Renderer.phaseOf?_install hphase] at hreturned
      exact hphase.trans hreturned
  | _ => exact hreturned

def Allows : Stage Environment → Pool.Phase (ExecutionContext Environment) → Prop
  | .checkout _, phase => phase ≠ .returned
  | _, phase => ∃ context, phase = .holding context

theorem allows_holding (stage : Stage Environment) (context : ExecutionContext Environment) :
    Allows stage (.holding context) := by
  cases stage with
  | checkout attempt => simp [Allows]
  | _ => exact ⟨context, rfl⟩

/-- Every call has what it needs in order to go on. -/
structure Equipped (session : Session World Environment) : Prop where
  installed : 0 < session.renderer.installations.length
  entered : ∀ {job index : Nat} {state : Job Environment},
    session.renderer.jobs[job]? = some state → state.stage = .entered index →
    index < session.renderer.installations.length
  attempted : ∀ {job : Nat} {state : Job Environment} {attempt : Attempt},
    session.renderer.jobs[job]? = some state → state.stage.attempt? = some attempt →
    ∃ phase, session.renderer.phaseOf? attempt.installation attempt.caller = some phase ∧
      Allows state.stage phase

theorem allows_of_stride {job : Nat} {before after : Job Environment} {events : List Log.Event}
    {attempt : Attempt}
    (hallows : ∀ attempt, before.stage.attempt? = some attempt →
      ∃ phase, session.renderer.phaseOf? attempt.installation attempt.caller = some phase ∧
        Allows before.stage phase)
    (hstride : Renderer.Stride engine session.renderer job before after next.renderer events)
    (hattempt : after.stage.attempt? = some attempt) :
    ∃ phase, next.renderer.phaseOf? attempt.installation attempt.caller = some phase ∧
      Allows after.stage phase := by
  by_cases hcheckout : ∃ begun, after.stage = .checkout begun
  · obtain ⟨begun, hbegun⟩ := hcheckout
    rw [hbegun] at hattempt ⊢
    obtain rfl := Option.some.inj hattempt
    obtain ⟨-, -, -, -, -, -, hphase⟩ := hstride.exists_installation_of_checkout hbegun
    exact ⟨.looking, hphase, by simp [Allows]⟩
  -- The renderer after the stride has to stand alone for the strides to be told apart.
  generalize hrenderer : next.renderer = renderer at hstride
  cases hstride with
  | startLoad hphase =>
      obtain rfl := Option.some.inj hattempt
      exact ⟨_, hphase, _, rfl⟩
  | startEval hphase =>
      obtain rfl := Option.some.inj hattempt
      exact ⟨_, hphase, _, rfl⟩
  | @endWork call retried worked reply installation hgates hinstallation =>
      obtain rfl := Option.some.inj (Renderer.attempt?_stageAfterWork.symm.trans hattempt)
      obtain ⟨phase, hphase, context, rfl⟩ := hallows worked rfl
      exact ⟨_, Renderer.phaseOf?_updateHeld hinstallation hphase reply.after,
        allows_holding _ _⟩
  | arrive => exact absurd ⟨_, rfl⟩ hcheckout
  | _ => contradiction

/-- The place of a call at a desk still suits its stage after the turns of others. -/
theorem allows_of_other (hseated : session.Seated) (hturn : Turn engine session action next)
    {job : Nat} {state : Job Environment} {attempt : Attempt}
    (hjob : session.renderer.jobs[job]? = some state)
    (hattempt : state.stage.attempt? = some attempt) (hother : ∀ time, action ≠ .work time job)
    {phase : Pool.Phase (ExecutionContext Environment)}
    (hphase : session.renderer.phaseOf? attempt.installation attempt.caller = some phase)
    (hallows : Allows state.stage phase) :
    ∃ later, next.renderer.phaseOf? attempt.installation attempt.caller = some later ∧
      Allows state.stage later := by
  obtain ⟨rest, log, htrace⟩ := hseated.current hjob hattempt
  by_cases hholding : ∃ context, phase = .holding context
  · obtain ⟨context, rfl⟩ := hholding
    exact ⟨_, phaseOf?_of_seated hseated hturn htrace List.mem_cons_self hphase trivial hother,
      allows_holding _ context⟩
  · obtain ⟨later, hlater⟩ := exists_phaseOf?_of_turn hturn hphase
    refine ⟨later, hlater, ?_⟩
    cases hstage : state.stage with
    | checkout begun =>
        rw [hstage] at hallows
        rintro rfl
        refine hallows (returned_of_turn hturn hphase ?_ hlater)
        intro time worker busy seat haction hworker hseat hinstallation hcaller
        obtain ⟨others, lines, hworkerTrace⟩ := hseated.current hworker hseat
        obtain rfl := hseated.apart hworkerTrace htrace List.mem_cons_self List.mem_cons_self
          hinstallation hcaller
        exact hother time haction
    | _ =>
        rw [hstage] at hallows
        exact absurd hallows hholding

theorem equipped_of_turn (hseated : session.Seated) (hequipped : session.Equipped)
    (hturn : Turn engine session action next) : next.Equipped := by
  have hle := length_installations_le_of_turn hturn
  refine ⟨Nat.lt_of_lt_of_le hequipped.installed hle, ?_, ?_⟩
  · intro job index state hjob hentered
    rcases job_cases_of_turn hturn hjob with
      ⟨-, hold⟩ | ⟨-, hentering⟩ | ⟨time, before, events, -, hbefore, hstride⟩
    · exact Nat.lt_of_lt_of_le (hequipped.entered hold hentered) hle
    · rw [hentering] at hentered
      contradiction
    · have hindex := hstride.index_of_entered hentered
      have hinstalled := hequipped.installed
      omega
  · intro job state attempt hjob hattempt
    rcases job_cases_of_turn hturn hjob with
      ⟨hother, hold⟩ | ⟨-, hentering⟩ | ⟨time, before, events, -, hbefore, hstride⟩
    · obtain ⟨phase, hphase, hallows⟩ := hequipped.attempted hold hattempt
      exact allows_of_other hseated hturn hold hattempt hother hphase hallows
    · rw [hentering] at hattempt
      contradiction
    · exact allows_of_stride (fun _ hearlier => hequipped.attempted hbefore hearlier) hstride
        hattempt

theorem equipped_of_reachable (hreach : Reachable engine session) : session.Equipped := by
  refine hreach.induction (motive := Equipped) ?_ ?_
  · intro world setup sources first hstart
    obtain ⟨installation, -, rfl⟩ := start_eq_ok hstart
    exact ⟨Nat.zero_lt_one, by simp, by simp⟩
  · intro session action next hreach hturn hequipped
    exact equipped_of_turn (seated_of_reachable hreach) hequipped hturn

/-! ## Calls that wait -/

variable {time : Nat}

theorem exists_installation_of_phaseOf? {renderer : Renderer World Environment}
    {index caller : Nat} {phase : Pool.Phase (ExecutionContext Environment)}
    (hphase : renderer.phaseOf? index caller = some phase) :
    ∃ installation, renderer.installations[index]? = some installation ∧
      installation.desk.phase? caller = some phase := by
  obtain ⟨desk, hdesk, hcaller⟩ := Option.bind_eq_some_iff.1 hphase
  rw [Renderer.desks, List.getElem?_map] at hdesk
  obtain ⟨installation, hinstallation, rfl⟩ := Option.map_eq_some_iff.1 hdesk
  exact ⟨installation, hinstallation, hcaller⟩

/-- A call in a renderer at rest is finished, or it waits for a context. -/
theorem finished_or_parked (hequipped : session.Equipped) (hprompt : engine.NeverWaits)
    (hrest : session.renderer.AtRest engine time) {job : Nat} {state : Job Environment}
    (hjob : session.renderer.jobs[job]? = some state) :
    state.IsFinished ∨ ∃ attempt, state.stage.attempt? = some attempt ∧
      session.renderer.phaseOf? attempt.installation attempt.caller = some .parked := by
  have hstuck := hrest.jobs job
  have hentered := @hequipped.entered job
  have hattempted := fun attempt => @hequipped.attempted job state attempt hjob
  rw [Renderer.step, hjob, Option.bind_eq_bind, Option.bind_some] at hstuck
  obtain ⟨call, retried, stage⟩ := state
  cases stage with
  | finished result => exact .inl ⟨result, rfl⟩
  | entering => contradiction
  | entered index =>
      simp only [List.getElem?_eq_getElem (hentered hjob rfl)] at hstuck
      contradiction
  | checkout attempt =>
      obtain ⟨phase, hphase, hallows⟩ := hattempted attempt rfl
      obtain ⟨installation, hinstallation, hcaller⟩ := exists_installation_of_phaseOf? hphase
      have hsettled := hrest.desks installation.desk
        (List.mem_of_getElem? (Renderer.desk_of_installation hinstallation))
      have hwaits := hsettled.waits hcaller
      simp only [hinstallation, hcaller, Option.bind_eq_bind, Option.bind_some] at hstuck
      cases phase with
      | parked => exact .inr ⟨attempt, rfl, hphase⟩
      | returned => exact absurd rfl hallows
      | holding context => contradiction
      | refused error => contradiction
      | _ => rcases hwaits with hsettled | hparked <;> contradiction
  | working attempt reply =>
      obtain ⟨phase, hphase, -⟩ := hattempted attempt rfl
      obtain ⟨installation, hinstallation, -⟩ := exists_installation_of_phaseOf? hphase
      have hgates : reply.gates.all (engine.isOpen session.renderer.world) = true :=
        List.all_eq_true.2 fun gate _ => hprompt _ gate
      simp only [hgates, if_true, hinstallation] at hstuck
      contradiction
  | prepared attempt =>
      obtain ⟨_, hphase, context, rfl⟩ := hattempted attempt rfl
      simp only [Renderer.contextOf?_eq_some_iff.2 hphase] at hstuck
      contradiction
  | leaving attempt result =>
      obtain ⟨_, hphase, context, rfl⟩ := hattempted attempt rfl
      obtain ⟨installation, hinstallation, hcaller⟩ := exists_installation_of_phaseOf? hphase
      simp only [hinstallation, Pool.Desk.step, hcaller, Option.bind_eq_bind,
        Option.bind_some] at hstuck
      contradiction

/-- Whoever waits in a renderer at rest waits for a context that somebody has. -/
theorem exists_holding_of_parked (hreach : Reachable engine session)
    (hrest : session.renderer.AtRest engine time) {index waiter : Nat}
    (hparked : session.renderer.phaseOf? index waiter = some .parked) :
    ∃ caller context, session.renderer.phaseOf? index caller = some (.holding context) := by
  obtain ⟨installation, hinstallation, hwaiter⟩ := exists_installation_of_phaseOf? hparked
  have hsettled := hrest.desks installation.desk
    (List.mem_of_getElem? (Renderer.desk_of_installation hinstallation))
  obtain ⟨setup, sources, fresh, hbuild, hevolves⟩ :=
    (founded_of_reachable hreach).installed index installation hinstallation
  obtain ⟨hsize, hdesk⟩ :=
    Pool.Desk.ofOptions_eq_ok_iff.1 (Installation.ofOptions_of_build hbuild)
  have hturns : Pool.Desk.Reachable ExecutionContext.id _ installation.desk :=
    hdesk ▸ hevolves.turned
  obtain ⟨caller, context, hcaller⟩ :=
    hsettled.exists_holding hturns (toNat_ne_zero hsize) hwaiter
  refine ⟨caller, context, ?_⟩
  rw [Renderer.phaseOf?_of_installation hinstallation]
  exact hcaller

/-- Calls do not wait for each other in vain.  Whatever was rendered, loaded, changed and set
up anew before, if no call can go on then all are finished. -/
theorem finished_of_atRest (hreach : Reachable engine session) (hprompt : engine.NeverWaits)
    (hrest : session.renderer.AtRest engine time) :
    ∀ state ∈ session.renderer.jobs, state.IsFinished := by
  have hequipped := equipped_of_reachable hreach
  intro state hmem
  obtain ⟨job, hjob⟩ := List.mem_iff_getElem?.1 hmem
  rcases finished_or_parked hequipped hprompt hrest hjob with
    hfinished | ⟨attempt, -, hparked⟩
  · exact hfinished
  -- The call that has the context cannot be waiting too.
  obtain ⟨caller, context, hholding⟩ := exists_holding_of_parked hreach hrest hparked
  obtain ⟨holder, busy, seat, hholder, hseat, hinstallation, rfl⟩ :=
    manned_of_reachable hreach hholding id
  rcases finished_or_parked hequipped hprompt hrest hholder with
    ⟨result, hstage⟩ | ⟨other, hother, hwaits⟩
  · rw [hstage] at hseat
    contradiction
  · obtain rfl := Option.some.inj (hseat.symm.trans hother)
    rw [hinstallation, hholding] at hwaits
    exact nomatch hwaits

end Session

end ServerRender
