import ServerRender.Proofs.Renderer.Attempts

/-!
# Handovers

A call that sets the renderer up anew first closes the pool of the current installation
and then puts its own installation in place.  A session does both in one turn.  Here
these are two turns under a lock: in between nobody reads which installation is current,
but the calls that are inside of one go on, and so do the pools.  What carries the proof
is that pools are closed in the order of their installations.  A call that comes to the
lock after a pool has closed enters a later installation, so each refusal that it meets
is that of another handover.
-/

namespace ServerRender

variable {World Environment : Type}

namespace Pool.Desk

variable {Context : Type} {desk next : Desk Context} {action : Action Context}

def Refuses (desk : Desk Context) : Prop :=
  desk.pool.closed = true ∨ ∃ caller, desk.phase? caller = some (.refused .poolShutdown)

theorem not_refuses_create (size : Nat) : ¬ (create size : Desk Context).Refuses := by
  rintro (hclosed | ⟨caller, hcaller⟩)
  · contradiction
  · contradiction

theorem refuses_of_setPhase {caller : Nat} {phase : Phase Context}
    (hphase : phase ≠ .refused .poolShutdown)
    (hrefuses : (desk.setPhase caller phase).Refuses) : desk.Refuses := by
  refine hrefuses.imp_right ?_
  rintro ⟨other, hother⟩
  rcases phase?_setPhase_cases hother with ⟨-, hsame⟩ | hold
  · exact absurd hsame.symm hphase
  · exact ⟨other, hold⟩

theorem refuses_of_arrive {time millis : Nat}
    (hrefuses : (desk.arrive time millis).Refuses) : desk.Refuses := by
  refine hrefuses.imp_right ?_
  rintro ⟨caller, hcaller⟩
  rcases phase?_arrive_cases hcaller with hlooking | hold
  · contradiction
  · exact ⟨caller, hold⟩

theorem refuses_of_updateHeld {caller : Nat} {context : Context}
    (hrefuses : (desk.updateHeld caller context).Refuses) : desk.Refuses := by
  simp only [updateHeld] at hrefuses
  split at hrefuses
  · exact refuses_of_setPhase (by simp) hrefuses
  · exact hrefuses

/-- Only a shutdown makes a pool refuse. -/
theorem refuses_of_move (hmove : Move desk action next) (hopen : action ≠ .shutdown)
    (hbuild : ∀ caller, action ≠ .build caller (.error .poolShutdown))
    (hrefuses : next.Refuses) : desk.Refuses := by
  cases hmove with
  | arrive time millis => exact refuses_of_arrive hrefuses
  | turnAway hlooks hclosed => exact .inl hclosed
  | @failed caller id error hphase =>
      have herror : (.refused error : Phase Context) ≠ .refused .poolShutdown := by
        intro hsame
        obtain rfl := Phase.refused.inj hsame
        exact hbuild caller rfl
      have hbefore := refuses_of_setPhase herror hrefuses
      exact hbefore
  | drop hnotices hparked => exact hrefuses
  | announce hclosing =>
      refine hrefuses.imp_right ?_
      rintro ⟨caller, hcaller⟩
      obtain ⟨before, hbefore, hwoken⟩ := phase?_announce_cases hcaller
      refine ⟨caller, hbefore.trans (congrArg some ?_)⟩
      cases before <;> first | exact hwoken.symm | contradiction
  | @release caller context hphase =>
      refine (refuses_of_setPhase (by simp) hrefuses).imp_left fun hclosed => ?_
      rwa [closed_release] at hclosed
  | shutdown => exact absurd rfl hopen
  | _ => exact refuses_of_setPhase (by simp [RenderError.exhaustedAfter]) hrefuses

end Pool.Desk

namespace Renderer

def put (renderer : Renderer World Environment) (fresh : Installation Environment) :
    Renderer World Environment :=
  { renderer with installations := renderer.installations ++ [fresh] }

theorem install_eq_put (renderer : Renderer World Environment)
    (fresh : Installation Environment) :
    renderer.install fresh = renderer.shutdown.put fresh := rfl

@[simp]
theorem length_installations_shutdown (renderer : Renderer World Environment) :
    renderer.shutdown.installations.length = renderer.installations.length := by
  simp [shutdown, updateCurrent]

def Refuses (renderer : Renderer World Environment) (index : Nat) : Prop :=
  ∃ desk, renderer.desks[index]? = some desk ∧ desk.Refuses

variable {renderer next : Renderer World Environment} {index : Nat}

theorem refuses_of_phaseOf? {caller : Nat}
    (hphase : renderer.phaseOf? index caller = some (.refused .poolShutdown)) :
    renderer.Refuses index := by
  obtain ⟨desk, hdesk, hrefused⟩ := Option.bind_eq_some_iff.1 hphase
  exact ⟨desk, hdesk, .inr ⟨caller, hrefused⟩⟩

theorem refuses_of_setDesk {place : Nat} {installation : Installation Environment}
    {desk : Pool.Desk (ExecutionContext Environment)}
    (hinstallation : renderer.installations[place]? = some installation)
    (hdesk : desk.Refuses → installation.desk.Refuses)
    (hrefuses : (renderer.setDesk place desk).Refuses index) : renderer.Refuses index := by
  obtain ⟨found, hfound, hrefuses⟩ := hrefuses
  by_cases hplace : place = index
  · subst hplace
    have hbefore := desk_of_installation hinstallation
    obtain rfl := Option.some.inj ((desk_setDesk_self hbefore).symm.trans hfound)
    exact ⟨_, hbefore, hdesk hrefuses⟩
  · rw [desk_setDesk_of_ne hplace] at hfound
    exact ⟨found, hfound, hrefuses⟩

/-- No call makes a pool refuse. -/
theorem Stride.refuses {engine : Engine World Environment} {job : Nat}
    {before after : Job Environment} {events : List Log.Event}
    (hstride : Stride engine renderer job before after next events)
    (hrefuses : next.Refuses index) : renderer.Refuses index := by
  cases hstride with
  | arrive time hinstallation hget =>
      exact refuses_of_setDesk hinstallation Pool.Desk.refuses_of_arrive hrefuses
  | endWork hgates hinstallation =>
      exact refuses_of_setDesk hinstallation Pool.Desk.refuses_of_updateHeld hrefuses
  | leave hinstallation hmove =>
      exact refuses_of_setDesk hinstallation
        (Pool.Desk.refuses_of_move hmove (by simp) (by simp)) hrefuses
  | _ => exact hrefuses

/-- The only pool that a shutdown closes is the current one. -/
theorem refuses_of_shutdown (hrefuses : renderer.shutdown.Refuses index) :
    renderer.Refuses index ∨ index + 1 = renderer.installations.length := by
  obtain ⟨desk, hdesk, hrefuses⟩ := hrefuses
  rw [desks, List.getElem?_map] at hdesk
  obtain ⟨installation, hinstallation, rfl⟩ := Option.map_eq_some_iff.1 hdesk
  rw [shutdown, updateCurrent, List.getElem?_modify] at hinstallation
  obtain ⟨before, hbefore, rfl⟩ := Option.map_eq_some_iff.1 hinstallation
  have hlt := (List.getElem?_eq_some_iff.1 hbefore).1
  split at hrefuses
  · next hcurrent => exact .inr (by omega)
  · exact .inl ⟨_, desk_of_installation hbefore, hrefuses⟩

theorem refuses_of_put {fresh : Installation Environment} (hfresh : ¬ fresh.desk.Refuses)
    (hrefuses : (renderer.put fresh).Refuses index) : renderer.Refuses index := by
  obtain ⟨desk, hdesk, hrefuses⟩ := hrefuses
  rw [desks, put, List.map_append, List.map_singleton] at hdesk
  rcases getElem?_append_cases hdesk with hold | ⟨-, rfl⟩
  · exact ⟨desk, hold, hrefuses⟩
  · exact absurd hrefuses hfresh

end Renderer

/-- The attempts that a call has still to begin unless it starts over. -/
def Stage.ahead : Stage Environment → Nat
  | .entering => 1
  | .entered _ => 1
  | _ => 0

theorem ahead_stageAfterWork (call : Call) (attempt : Attempt)
    (outcome : Except EngineError Work) :
    (Renderer.stageAfterWork call attempt outcome : Stage Environment).ahead = 0 := by
  cases outcome with
  | error error => rfl
  | ok work =>
      cases work with
      | value result => rfl
      | loaded now => cases call <;> rfl

namespace Renderer

/-- A stride begins an attempt that was ahead, or it is the one by which a call starts
over. -/
theorem Stride.length_attempts_le {engine : Engine World Environment}
    {renderer next : Renderer World Environment} {job : Nat} {before after : Job Environment}
    {events : List Log.Event} (hstride : Stride engine renderer job before after next events)
    (trace : Trace) :
    (trace.add (some after.stage) events).attempts.length + after.stage.ahead +
        before.retried.toNat ≤
      trace.attempts.length + before.stage.ahead + after.retried.toNat := by
  cases hstride with
  | endWork hgates hinstallation =>
      rw [Trace.add_of_ne fun other hcheckout =>
        stageAfterWork_ne_checkout other (Option.some.inj hcheckout)]
      simp only [ahead_stageAfterWork]
      exact Nat.le_refl _
  | _ => simp [Trace.add, Stage.ahead]

end Renderer

namespace Session

variable {engine : Engine World Environment} {session next : Session World Environment}
variable {action : Action World Environment}

/-- No call makes more than one attempt, but for one more if it has started over. -/
structure Counted (session : Session World Environment) : Prop where
  length_traces : session.traces.length = session.renderer.jobs.length
  attempts_le : ∀ {job : Nat} {state : Job Environment} {trace : Trace},
    session.renderer.jobs[job]? = some state → session.traces[job]? = some trace →
    trace.attempts.length + state.stage.ahead ≤ 1 + state.retried.toNat

theorem counted_of_turn (hcounted : session.Counted)
    (hturn : Turn engine session action next) : next.Counted := by
  refine ⟨length_traces_of_turn hcounted.length_traces hturn, ?_⟩
  intro job state trace hjob htrace
  have hlength := hcounted.length_traces
  cases hturn with
  | accept call =>
      rcases getElem?_append_cases hjob with hold | ⟨hnew, rfl⟩
      · have hlt := (List.getElem?_eq_some_iff.1 hold).1
        rw [List.getElem?_append_left (hlength ▸ hlt)] at htrace
        exact hcounted.attempts_le hold htrace
      · rcases getElem?_append_cases htrace with hold | ⟨-, rfl⟩
        · have hlt := (List.getElem?_eq_some_iff.1 hold).1
          omega
        · exact Nat.le_refl 1
  | @work time worker renderer events hstep =>
      obtain ⟨before, after, hbefore, hstride⟩ := Renderer.exists_stride_of_step hstep
      by_cases hworker : worker = job
      · subst hworker
        rw [List.getElem?_modify_eq] at htrace
        obtain ⟨earlier, hearlier, rfl⟩ := Option.map_eq_some_iff.1 htrace
        have hafter := hstride.job_eq hbefore
        obtain rfl := Option.some.inj (hafter.symm.trans hjob)
        have hle := hcounted.attempts_le hbefore hearlier
        have hstep := hstride.length_attempts_le earlier
        rw [hjob, Option.map_some]
        omega
      · rw [hstride.job_of_ne hworker] at hjob
        rw [List.getElem?_modify_ne _ _ hworker] at htrace
        exact hcounted.attempts_le hjob htrace
  | _ => exact hcounted.attempts_le hjob htrace

def Closes (session : Session World Environment) : Action World Environment → Prop
  | .serve _ .shutdown => True
  | .renew index => ∃ fresh archive, session.renewals[index]? = some (.built fresh archive)
  | _ => False

def ReadsCurrent (session : Session World Environment) : Action World Environment → Prop
  | .work _ job => ∃ state, session.renderer.jobs[job]? = some state ∧ state.stage = .entering
  | .change index => ∃ change, session.changes[index]? = some change ∧ change.stage = .entering
  | _ => False

theorem refuses_of_turn (hturn : Turn engine session action next)
    (hkeeps : ¬ session.Closes action) {index : Nat} (hrefuses : next.renderer.Refuses index) :
    session.renderer.Refuses index := by
  cases hturn with
  | work hstep =>
      obtain ⟨before, after, -, hstride⟩ := Renderer.exists_stride_of_step hstep
      exact hstride.refuses hrefuses
  | serve hinstallation hserves hstep =>
      refine Renderer.refuses_of_setDesk hinstallation ?_ hrefuses
      refine Pool.Desk.refuses_of_move (Pool.Desk.move_of_step hstep) ?_ ?_
      · rintro rfl
        exact hkeeps trivial
      · rintro caller rfl
        obtain ⟨reason, hreason⟩ := hserves
        contradiction
  | publish hchange hinstallation harchive =>
      rwa [Renderer.Refuses, Renderer.desks_setCache] at hrefuses
  | install hrenewal => exact absurd ⟨_, _, hrenewal⟩ hkeeps
  | _ => exact hrefuses

theorem length_installations_of_turn (hturn : Turn engine session action next)
    (hkeeps : ¬ session.Closes action) :
    next.renderer.installations.length = session.renderer.installations.length := by
  cases hturn with
  | work hstep =>
      obtain ⟨before, after, -, hstride⟩ := Renderer.exists_stride_of_step hstep
      have hlength := congrArg List.length hstride.templates_eq
      simpa [Renderer.templates] using hlength
  | serve hinstallation hserves hstep => exact List.length_modify _ _ _
  | publish hchange hinstallation harchive => exact List.length_modify _ _ _
  | install hrenewal => exact absurd ⟨_, _, hrenewal⟩ hkeeps
  | _ => rfl

end Session

/-! ## Handovers -/

/-- A session in which a handover may be half done. -/
structure Handover (World Environment : Type) where
  session : Session World Environment
  /-- The call that has closed the current pool and is about to put its own installation
  in place. -/
  replacing : Option Nat

namespace Handover

variable {engine : Engine World Environment} {handover next later : Handover World Environment}

/-- What may happen next, and how many pools are closed by it. -/
inductive Turn (engine : Engine World Environment) (handover : Handover World Environment) :
    Nat → Handover World Environment → Prop
  | act (action : Session.Action World Environment) {session : Session World Environment}
      (hturn : Session.Turn engine handover.session action session)
      (hkeeps : ¬ handover.session.Closes action)
      (hlock : handover.replacing ≠ none → ¬ handover.session.ReadsCurrent action) :
      Turn engine handover 0 { handover with session }
  | close (index : Nat) {fresh : Installation Environment} {archive : Archive}
      (hfree : handover.replacing = none)
      (hrenewal : handover.session.renewals[index]? = some (.built fresh archive)) :
      Turn engine handover 1
        { session := { handover.session with renderer := handover.session.renderer.shutdown }
          replacing := some index }
  | put (index : Nat) {fresh : Installation Environment} {archive : Archive}
      (hreplacing : handover.replacing = some index)
      (hrenewal : handover.session.renewals[index]? = some (.built fresh archive)) :
      Turn engine handover 0
        { session :=
            { handover.session with
              renderer := handover.session.renderer.put fresh
              archives := handover.session.archives ++ [archive]
              renewals := handover.session.renewals.set index
                (.installed handover.session.renderer.installations.length) }
          replacing := none }

/-- The later handover comes about from the earlier one, while so many pools are
closed. -/
inductive Runs (engine : Engine World Environment) (handover : Handover World Environment) :
    Nat → Handover World Environment → Prop
  | refl : Runs engine handover 0 handover
  | tail {count closings : Nat} {between last : Handover World Environment}
      (hruns : Runs engine handover count between) (hturn : Turn engine between closings last) :
      Runs engine handover (count + closings) last

/-- The handovers that any renderer can come to that nobody shuts down. -/
def Reachable (engine : Engine World Environment) (handover : Handover World Environment) :
    Prop :=
  ∃ world setup sources first count, Session.start world setup sources = .ok first ∧
    Runs engine ⟨first, none⟩ count handover

def accept (handover : Handover World Environment) (call : Call) :
    Handover World Environment :=
  { handover with
    session :=
      { handover.session with
        renderer := handover.session.renderer.accept call
        traces := handover.session.traces ++ [⟨[], []⟩] } }

/-- The pools that have been closed, which are the first ones. -/
def closed (handover : Handover World Environment) : Nat :=
  handover.session.renderer.installations.length - 1 +
    if handover.replacing = none then 0 else 1

/-- A turn of a session that shuts no pool down for good is a handover, or part of one. -/
theorem runs_of_turn {session after : Session World Environment}
    {action : Session.Action World Environment}
    (hturn : Session.Turn engine session action after)
    (hserves : ∀ index, action ≠ .serve index .shutdown) :
    ∃ count, Runs engine ⟨session, none⟩ count ⟨after, none⟩ := by
  by_cases hcloses : session.Closes action
  · cases hturn with
    | @serve index installation action desk events hinstallation hserved hstep =>
        cases action with
        | shutdown => exact absurd rfl (hserves index)
        | _ => exact hcloses.elim
    | @install index fresh archive hrenewal =>
        have hput : Turn engine
            ⟨{ session with renderer := session.renderer.shutdown }, some index⟩ 0 _ :=
          .put index rfl hrenewal
        simp only [Renderer.length_installations_shutdown, ← Renderer.install_eq_put] at hput
        exact ⟨_, (Runs.refl.tail (.close index rfl hrenewal)).tail hput⟩
    | build hordered hbuild =>
        obtain ⟨fresh, archive, hbuilt⟩ := hcloses
        simp [hordered] at hbuilt
    | reject hordered hbuild =>
        obtain ⟨fresh, archive, hbuilt⟩ := hcloses
        simp [hordered] at hbuilt
    | _ => exact hcloses.elim
  · exact ⟨_, Runs.refl.tail (.act action hturn hcloses fun hlocked => absurd rfl hlocked)⟩

/-- Pools are closed in the order of their installations. -/
structure Orderly (handover : Handover World Environment) : Prop where
  nonempty : 0 < handover.session.renderer.installations.length
  refuses_lt : ∀ {index : Nat}, handover.session.renderer.Refuses index →
    index < handover.closed
  ready : handover.session.Ready
  counted : handover.session.Counted

theorem closed_of_turn {closings : Nat} (horderly : handover.Orderly)
    (hturn : Turn engine handover closings next) :
    next.closed = handover.closed + closings := by
  have hnonempty := horderly.nonempty
  cases hturn with
  | act action hturn hkeeps hlock =>
      simp only [closed, Session.length_installations_of_turn hturn hkeeps, Nat.add_zero]
  | close index hfree hrenewal =>
      simp [closed, hfree]
  | put index hreplacing hrenewal =>
      simp only [closed, hreplacing, Renderer.put, List.length_append, List.length_singleton,
        reduceCtorEq, if_true, if_false]
      omega

theorem orderly_of_turn {closings : Nat} (horderly : handover.Orderly)
    (hturn : Turn engine handover closings next) : next.Orderly := by
  have hclosed := closed_of_turn horderly hturn
  have hnonempty := horderly.nonempty
  cases hturn with
  | act action hturn hkeeps hlock =>
      refine ⟨?_, ?_, Session.ready_of_turn horderly.ready hturn,
        Session.counted_of_turn horderly.counted hturn⟩
      · rwa [Session.length_installations_of_turn hturn hkeeps]
      · intro index hrefuses
        rw [hclosed]
        exact horderly.refuses_lt (Session.refuses_of_turn hturn hkeeps hrefuses)
  | close index hfree hrenewal =>
      refine ⟨by simpa using hnonempty, ?_,
        horderly.ready, ⟨horderly.counted.length_traces, horderly.counted.attempts_le⟩⟩
      intro index hrefuses
      rw [hclosed]
      rcases Renderer.refuses_of_shutdown hrefuses with hold | hcurrent
      · exact Nat.lt_succ_of_lt (horderly.refuses_lt hold)
      · simp only [closed, hfree, if_true]
        omega
  | put index hreplacing hrenewal =>
      refine ⟨by simp [Renderer.put], ?_, ?_,
        ⟨horderly.counted.length_traces, horderly.counted.attempts_le⟩⟩
      · intro index hrefuses
        rw [hclosed]
        obtain ⟨size, hsize⟩ := horderly.ready hrenewal
        have hopen := hsize ▸ Pool.Desk.not_refuses_create size
        exact horderly.refuses_lt (Renderer.refuses_of_put hopen hrefuses)
      · intro other fresh archive hbuilt
        rcases getElem?_set_cases hbuilt with ⟨-, hnew⟩ | ⟨-, hold⟩
        · contradiction
        · exact horderly.ready hold

theorem orderly_of_start {world : World} {setup : Setup} {sources : Sources}
    {first : Session World Environment}
    (hstart : Session.start world setup sources = .ok first) :
    Orderly ⟨first, none⟩ := by
  have hready : first.Ready := Session.ready_of_start hstart
  obtain ⟨installation, hbuild, rfl⟩ := Session.start_eq_ok hstart
  refine ⟨Nat.one_pos, ?_, hready, ⟨rfl, by simp⟩⟩
  rintro index ⟨desk, hdesk, hrefuses⟩
  obtain rfl := List.mem_singleton.1 (List.mem_of_getElem? hdesk)
  obtain ⟨size, hsize⟩ := Session.exists_size_of_build hbuild
  rw [hsize] at hrefuses
  exact absurd hrefuses (Pool.Desk.not_refuses_create size)

theorem orderly_of_runs {count : Nat} (horderly : handover.Orderly)
    (hruns : Runs engine handover count later) : later.Orderly := by
  induction hruns with
  | refl => exact horderly
  | tail _ hturn ih => exact orderly_of_turn ih hturn

theorem orderly_of_reachable (hreach : Reachable engine handover) : handover.Orderly := by
  obtain ⟨world, setup, sources, first, count, hstart, hruns⟩ := hreach
  exact orderly_of_runs (orderly_of_start hstart) hruns

theorem closed_of_runs {count : Nat} (horderly : handover.Orderly)
    (hruns : Runs engine handover count later) : later.closed = handover.closed + count := by
  induction hruns with
  | refl => rfl
  | tail hbefore hturn ih =>
      rw [closed_of_turn (orderly_of_runs horderly hbefore) hturn, ih, Nat.add_assoc]

/-! ## Following one render -/

/-- How far a render has come that started when the first `base` pools were closed: it is
in a later installation than these, and one later still if it has started over. -/
structure Since (base closed : Nat) (state : Job Environment) : Prop where
  render : ∃ component urlPath props, state.call = .render component urlPath props
  started : base + state.retried.toNat ≤ closed
  entered : ∀ {index : Nat}, state.stage = .entered index → base + state.retried.toNat ≤ index
  begun : ∀ {attempt : Attempt}, state.stage.attempt? = some attempt →
    base + state.retried.toNat ≤ attempt.installation
  refused : state.stage = .finished (.error .poolShutdown) → base + 2 ≤ closed

theorem Since.mono {base closed more : Nat} {state : Job Environment}
    (hsince : Since base closed state) (hle : closed ≤ more) : Since base more state :=
  { hsince with
    started := Nat.le_trans hsince.started hle
    refused := fun hrefused => Nat.le_trans (hsince.refused hrefused) hle }

/-- The failures of the engine are not those of the pool. -/
theorem concludeCall_ne_poolShutdown (installation : Installation Environment) (call : Call)
    (attempt : Attempt) (result : Except EngineError Answer) :
    (Renderer.concludeCall installation call attempt result).1 ≠ .error .poolShutdown := by
  cases result with
  | ok answer => simp [Renderer.concludeCall]
  | error cause =>
      cases cause <;> cases call <;> simp [Renderer.concludeCall, Installation.fail]

/-- A render that is refused was in an installation whose pool has closed, and whoever
enters does so when no handover is half done. -/
theorem Since.stride {renderer after : Renderer World Environment} {job base closed : Nat}
    {before state : Job Environment} {events : List Log.Event}
    (hsince : Since base closed before)
    (hstride : Renderer.Stride engine renderer job before state after events)
    (hentering : before.stage = .entering → renderer.installations.length - 1 = closed)
    (hrefuses : ∀ {index : Nat}, renderer.Refuses index → index < closed) :
    Since base closed state := by
  have hrender : ∃ component urlPath props, state.call = .render component urlPath props := by
    rw [hstride.call_eq]
    exact hsince.render
  have hstarted := hsince.started
  cases hstride with
  | enter =>
      refine ⟨hrender, hstarted, ?_, by simp [Stage.attempt?], by simp⟩
      intro index hindex
      obtain rfl := Stage.entered.inj hindex
      rw [hentering rfl]
      exact hstarted
  | missing hinstallation hget =>
      exact ⟨hrender, hstarted, by simp, by simp [Stage.attempt?], by simp⟩
  | arrive time hinstallation hget =>
      refine ⟨hrender, hstarted, by simp, ?_, by simp⟩
      intro attempt hattempt
      obtain rfl := Option.some.inj hattempt
      exact hsince.entered rfl
  | startLoad hphase => exact ⟨hrender, hstarted, by simp, hsince.begun, by simp⟩
  | startOver hphase =>
      have hbegun := hsince.begun rfl
      have hlt := hrefuses (Renderer.refuses_of_phaseOf? hphase)
      simp only [Bool.toNat_false] at hbegun
      exact ⟨hrender, by simp only [Bool.toNat_true]; omega, by simp, by simp [Stage.attempt?],
        by simp⟩
  | @refused call retried attempt error hphase hfinal =>
      refine ⟨hrender, hstarted, by simp, by simp [Stage.attempt?], ?_⟩
      intro hshutdown
      obtain rfl := Except.error.inj (Stage.finished.inj hshutdown)
      obtain ⟨component, urlPath, props, hcall⟩ := hrender
      rcases hfinal rfl with rfl | ⟨loaded, hload⟩
      · have hbegun := hsince.begun rfl
        have hlt := hrefuses (Renderer.refuses_of_phaseOf? hphase)
        simp only [Bool.toNat_true] at hbegun
        omega
      · exact Call.noConfusion (hcall.symm.trans hload)
  | startEval hphase => exact ⟨hrender, hstarted, by simp, hsince.begun, by simp⟩
  | endWork hgates hinstallation =>
      refine ⟨hrender, hstarted, ?_, ?_,
        fun hrefused => absurd hrefused (Renderer.stageAfterWork_ne_of_none rfl)⟩
      · intro index hindex
        exact absurd hindex (Renderer.stageAfterWork_ne_of_none rfl)
      · intro other hother
        exact hsince.begun (Renderer.attempt?_stageAfterWork.symm.trans hother)
  | leave hinstallation hmove =>
      refine ⟨hrender, hstarted, by simp, by simp [Stage.attempt?], ?_⟩
      intro hshutdown
      exact absurd (Stage.finished.inj hshutdown) (concludeCall_ne_poolShutdown _ _ _ _)

def Follows (base job : Nat) (handover : Handover World Environment) : Prop :=
  ∃ state, handover.session.renderer.jobs[job]? = some state ∧ Since base handover.closed state

theorem follows_of_turn {base job closings : Nat} (horderly : handover.Orderly)
    (hfollows : Follows base job handover) (hturn : Turn engine handover closings next) :
    Follows base job next := by
  have hclosed := closed_of_turn horderly hturn
  have hle : handover.closed ≤ next.closed := hclosed ▸ Nat.le_add_right _ _
  obtain ⟨state, hjob, hsince⟩ := hfollows
  cases hturn with
  | act action hturn hkeeps hlock =>
      obtain ⟨after, hafter, rfl | ⟨time, events, rfl, hstride⟩⟩ :=
        Session.exists_job_of_turn hturn hjob
      · exact ⟨after, hafter, hsince.mono hle⟩
      · refine ⟨after, hafter, (hsince.stride hstride ?_ horderly.refuses_lt).mono hle⟩
        intro hentering
        have hfree : handover.replacing = none := by
          by_contra hlocked
          exact hlock hlocked ⟨state, hjob, hentering⟩
        simp [closed, hfree]
  | close index hfree hrenewal => exact ⟨state, hjob, hsince.mono hle⟩
  | put index hreplacing hrenewal => exact ⟨state, hjob, hsince.mono hle⟩

theorem follows_accept (handover : Handover World Environment)
    (component urlPath props : String) :
    Follows handover.closed handover.session.renderer.jobs.length
      (handover.accept (.render component urlPath props)) := by
  refine ⟨_, List.getElem?_concat_length, ⟨_, _, _, rfl⟩, Nat.le_refl _, by simp,
    by simp [Stage.attempt?], by simp⟩

theorem follows_of_runs {base job count : Nat} (horderly : handover.Orderly)
    (hfollows : Follows base job handover) (hruns : Runs engine handover count later) :
    Follows base job later := by
  induction hruns with
  | refl => exact hfollows
  | tail hbefore hturn ih => exact follows_of_turn (orderly_of_runs horderly hbefore) ih hturn

theorem turn_accept (handover : Handover World Environment) (call : Call) :
    Turn engine handover 0 (handover.accept call) :=
  .act (.accept call) (.accept call) (fun h => h) (fun _ h => h)

/-- No single handover makes a render fail.  Whatever else is called and however all the
steps follow each other, a render during which at most one pool is closed is not
told that its pool was shut down, wherever it was at that moment.  And no call steps up to
a pool more than twice. -/
theorem answer_ne_poolShutdown (hreach : Reachable engine handover)
    {component urlPath props : String} {count : Nat}
    (hruns : Runs engine (handover.accept (.render component urlPath props)) count later) :
    (count ≤ 1 → later.session.renderer.answer? handover.session.renderer.jobs.length ≠
      some (.error .poolShutdown)) ∧
    ∀ {job : Nat} {trace : Trace}, later.session.traces[job]? = some trace →
      trace.attempts.length ≤ 2 := by
  have haccepted : Turn engine handover 0 (handover.accept (.render component urlPath props)) :=
    turn_accept handover _
  have horderly := orderly_of_turn (orderly_of_reachable hreach) haccepted
  have hlater := orderly_of_runs horderly hruns
  constructor
  · intro hcount hanswer
    obtain ⟨state, hjob, hsince⟩ :=
      follows_of_runs horderly (follows_accept handover component urlPath props) hruns
    have hfinished : state.stage = .finished (.error .poolShutdown) := by
      simp only [Renderer.answer?, hjob, Option.map_some] at hanswer
      split at hanswer
      · next result hresult =>
          rw [Option.some.inj hresult, Option.some.inj hanswer]
      · contradiction
    have htwo := hsince.refused hfinished
    have hclosed := closed_of_runs horderly hruns
    have hsame : (handover.accept (.render component urlPath props)).closed =
        handover.closed := rfl
    omega
  · intro job trace htrace
    have hlt := hlater.counted.length_traces ▸ (List.getElem?_eq_some_iff.1 htrace).1
    have hle := hlater.counted.attempts_le (List.getElem?_eq_getElem hlt) htrace
    have hbool := Bool.toNat_le later.session.renderer.jobs[job].retried
    omega

/-- A renderer of one component, with a second installation built and not in place yet. -/
def prepared : Handover Unit String where
  session :=
    { renderer := ⟨(), [Session.plainInstallation ⟨[("A", "code")]⟩], []⟩
      sources := ⟨[("A", "code")]⟩
      snapshots := [⟨[("A", "code")]⟩, ⟨[("A", "code")]⟩]
      archives := [CodeCache.firstArchive "" 0 ⟨[("A", "code")]⟩]
      traces := []
      changes := []
      renewals :=
        [.built (Session.plainInstallation ⟨[("A", "code")]⟩)
          (CodeCache.firstArchive "" 1 ⟨[("A", "code")]⟩)] }
  replacing := none

/-- A render comes to a pool that closes before it has looked.  It is refused, starts over
while the lock is still held, and is served by the new installation. -/
theorem answer_of_handover :
    Reachable Session.echoEngine prepared ∧ ∃ later : Handover Unit String,
      Runs Session.echoEngine (prepared.accept (.render "A" "/" "")) 1 later ∧
      later.session.renderer.answer? 0 =
        some (.ok (.markup (CodeBundle.assemble "A" "" "code" 1).source)) ∧
      (later.session.traces.map fun trace => trace.attempts.map Attempt.installation) =
        [[1, 0]] ∧
      later.session.renderer.answer? 0 ≠ some (.error .poolShutdown) := by
  obtain ⟨handover, hreach, rfl⟩ :
      ∃ handover, Reachable Session.echoEngine handover ∧ handover = prepared :=
    ⟨_, ⟨(), Session.plainSetup, ⟨[("A", "code")]⟩, _, _,
      Session.start_plainSetup () ⟨[("A", "code")]⟩,
      (Runs.refl.tail
        (.act (.order Session.plainSetup) (.order _) id fun _ => id)).tail
        (.act (.renew 0) (.build rfl (Session.build_plainSetup _))
          (by simp [Session.Closes, Session.plainSession]) fun _ => id)⟩, rfl⟩
  have hbefore : Runs Session.echoEngine (prepared.accept (.render "A" "/" "")) _ _ := .refl
  have hrefused :=
    ((((hbefore.tail
      (.act (.work 0 0) (.work rfl) id fun h => absurd rfl h)).tail
      (.act (.work 0 0) (.work rfl) id fun h => absurd rfl h)).tail
      (.close 0 rfl rfl)).tail
      (.act (.serve 0 (.look 0)) (.serve rfl trivial rfl) id fun _ => id)).tail
      (.act (.work 0 0) (.work rfl) id fun _ => by
        rintro ⟨state, hjob, hstage⟩
        obtain rfl := Option.some.inj hjob
        contradiction)
  have hserved :=
    (((((hrefused.tail
      (.put 0 rfl rfl)).tail
      (.act (.work 0 0) (.work rfl) id fun h => absurd rfl h)).tail
      (.act (.work 0 0) (.work rfl) id fun h => absurd rfl h)).tail
      (.act (.serve 1 (.look 0)) (.serve rfl trivial rfl) id fun _ => id)).tail
      (.act (.serve 1 (.build 0 (.ok (.create 0)))) (.serve rfl ⟨0, rfl, rfl⟩ rfl) id
        fun _ => id))
  have hruns :=
    ((((hserved.tail
      (.act (.work 0 0) (.work rfl) id fun h => absurd rfl h)).tail
      (.act (.work 0 0) (.work rfl) id fun h => absurd rfl h)).tail
      (.act (.work 0 0) (.work rfl) id fun h => absurd rfl h)).tail
      (.act (.work 0 0) (.work rfl) id fun h => absurd rfl h)).tail
      (.act (.work 0 0) (.work rfl) id fun h => absurd rfl h)
  exact ⟨hreach, _, hruns, rfl, rfl, (answer_ne_poolShutdown hreach hruns).1 (Nat.le_refl 1)⟩

end Handover

end ServerRender
