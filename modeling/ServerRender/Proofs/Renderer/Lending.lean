import Mathlib.Data.List.Perm.Subperm
import Mathlib.Tactic.Choose
import ServerRender.Proofs.Pool.Demand
import ServerRender.Proofs.Renderer.Generations

/-!
# Contexts that are lent to calls

A call gets a context from the pool of its installation and gives it back on every way out:
when its bundle does not load, when its script fails or returns no output, after a panic,
and after a success.  What carries this is that everybody at a desk who is not done there
is the present attempt of a call that has not returned.  So a pool never has more contexts
in use than there are calls in progress, and has made no more than were once in use
together.
-/

namespace ServerRender

variable {World Environment : Type} {engine : Engine World Environment}

theorem Pool.Desk.length_callers_of_move {Context : Type} {desk next : Pool.Desk Context}
    {action : Pool.Action Context} (hmove : desk.Move action next)
    (harrive : ∀ time millis, action ≠ .arrive time millis) :
    next.callers.length = desk.callers.length := by
  cases hmove with
  | arrive time millis => exact absurd rfl (harrive time millis)
  | announce hclosing => exact List.length_map ..
  | drop hnotices hparked => rfl
  | shutdown => rfl
  | _ => exact length_callers_setPhase ..

namespace Renderer

variable {renderer next : Renderer World Environment} {job : Nat}

/-- Nobody comes to a desk that has as many callers as before. -/
theorem exists_phaseOf?_of_setDesk {index other caller : Nat}
    {before desk : Pool.Desk (ExecutionContext Environment)}
    {phase : Pool.Phase (ExecutionContext Environment)}
    (hdesk : renderer.desks[index]? = some before)
    (hlength : desk.callers.length = before.callers.length)
    (hphase : (renderer.setDesk index desk).phaseOf? other caller = some phase) :
    ∃ earlier, renderer.phaseOf? other caller = some earlier := by
  by_cases hindex : index = other
  · subst hindex
    rw [phaseOf?_setDesk_self hdesk] at hphase
    rw [phaseOf?_of_desk hdesk]
    apply Pool.Desk.exists_phase?
    rw [← hlength]
    exact Pool.Desk.phase?_lt hphase
  · exact ⟨phase, (phaseOf?_setDesk_of_ne hindex caller).symm.trans hphase⟩

/-- The last of the callers of a desk is the one who has just arrived. -/
theorem phaseOf?_arrive_cases {index other caller : Nat} {time millis : Nat}
    {desk : Pool.Desk (ExecutionContext Environment)}
    {phase : Pool.Phase (ExecutionContext Environment)}
    (hdesk : renderer.desks[index]? = some desk)
    (hphase : (renderer.setDesk index (desk.arrive time millis)).phaseOf? other caller =
      some phase) :
    (∃ earlier, renderer.phaseOf? other caller = some earlier) ∨
      index = other ∧ desk.callers.length = caller := by
  by_cases hindex : index = other
  · subst hindex
    rw [phaseOf?_setDesk_self hdesk] at hphase
    obtain ⟨entry, hentry, -⟩ := Pool.Desk.phase?_eq_some_iff.mp hphase
    rcases getElem?_append_cases hentry with hold | ⟨hlast, -⟩
    · refine .inl ⟨entry.phase, ?_⟩
      rw [phaseOf?_of_desk hdesk]
      exact Pool.Desk.phase?_eq_some_iff.mpr ⟨entry, hold, rfl⟩
    · exact .inr ⟨rfl, hlast⟩
  · exact .inl ⟨phase, (phaseOf?_setDesk_of_ne hindex caller).symm.trans hphase⟩

/-- An attempt goes on, or its caller is done at the desk. -/
theorem Stride.attempt?_or_isFinal {before after : Job Environment}
    {events : List Log.Event} {attempt : Attempt}
    (hstride : Stride engine renderer job before after next events)
    (hattempt : before.stage.attempt? = some attempt) :
    after.stage.attempt? = some attempt ∨
      ∃ phase, next.phaseOf? attempt.installation attempt.caller = some phase ∧
        phase.IsFinal := by
  cases hstride with
  | enter => contradiction
  | missing hinstallation hget => contradiction
  | arrive time hinstallation hget => contradiction
  | startLoad hphase => exact .inl hattempt
  | startEval hphase => exact .inl hattempt
  | endWork hgates hinstallation =>
      rw [← hattempt]
      exact .inl attempt?_stageAfterWork
  | startOver hphase =>
      obtain rfl := Option.some.inj hattempt
      exact .inr ⟨_, hphase, trivial⟩
  | refused hphase hfinal =>
      obtain rfl := Option.some.inj hattempt
      exact .inr ⟨_, hphase, trivial⟩
  | leave hinstallation hmove =>
      obtain rfl := Option.some.inj hattempt
      exact .inr ⟨.returned, phaseOf?_release hinstallation hmove, trivial⟩

/-- Only the call that holds a context can give it away, and it gives it back. -/
theorem Stride.lent {before after : Job Environment} {events : List Log.Event}
    (hstride : Stride engine renderer job before after next events) {index caller : Nat}
    {context : ExecutionContext Environment}
    (hphase : renderer.phaseOf? index caller = some (.holding context)) :
    (∃ later, next.phaseOf? index caller = some (.holding later)) ∨
      next.phaseOf? index caller = some .returned := by
  by_cases hown : ∃ attempt, before.stage.attempt? = some attempt ∧
      attempt.installation = index ∧ attempt.caller = caller
  · obtain ⟨attempt, hattempt, rfl, rfl⟩ := hown
    cases hstride with
    | endWork hgates hinstallation =>
        obtain rfl := Option.some.inj hattempt
        exact .inl ⟨_, phaseOf?_updateHeld hinstallation hphase _⟩
    | leave hinstallation hmove =>
        obtain rfl := Option.some.inj hattempt
        exact .inr (phaseOf?_release hinstallation hmove)
    | arrive time hinstallation hget => contradiction
    | _ => exact .inl ⟨context, hphase⟩
  · refine .inl ⟨context, hstride.phaseOf?_of_other hphase ?_⟩
    intro attempt hattempt hinstallation
    exact .inl fun hcaller => hown ⟨attempt, hattempt, hinstallation, hcaller⟩

/-- A caller that a stride brings to a desk is that of the attempt that begins with it. -/
theorem Stride.phaseOf?_cases {before after : Job Environment} {events : List Log.Event}
    (hstride : Stride engine renderer job before after next events) {index caller : Nat}
    {phase : Pool.Phase (ExecutionContext Environment)}
    (hphase : next.phaseOf? index caller = some phase) :
    (∃ earlier, renderer.phaseOf? index caller = some earlier) ∨
      ∃ attempt, after.stage.attempt? = some attempt ∧ attempt.installation = index ∧
        attempt.caller = caller := by
  cases hstride with
  | arrive time hinstallation hget =>
      rcases phaseOf?_arrive_cases (desk_of_installation hinstallation) hphase with
        hearlier | ⟨rfl, rfl⟩
      · exact .inl hearlier
      · exact .inr ⟨_, rfl, rfl, rfl⟩
  | endWork hgates hinstallation =>
      exact .inl (exists_phaseOf?_of_setDesk (desk_of_installation hinstallation)
        (Pool.Desk.length_callers_updateHeld ..) hphase)
  | leave hinstallation hmove =>
      exact .inl (exists_phaseOf?_of_setDesk (desk_of_installation hinstallation)
        (Pool.Desk.length_callers_of_move hmove (by simp)) hphase)
  | _ => exact .inl ⟨phase, hphase⟩

end Renderer

namespace Session

variable {session next later : Session World Environment} {action : Action World Environment}

/-- The call is in the middle of an attempt with this place at a desk. -/
def Occupies (session : Session World Environment) (job index caller : Nat) : Prop :=
  ∃ state attempt, session.renderer.jobs[job]? = some state ∧
    state.stage.attempt? = some attempt ∧ attempt.installation = index ∧
    attempt.caller = caller

/-- Everybody at a desk is done there or is the present attempt of a call. -/
def Manned (session : Session World Environment) : Prop :=
  ∀ {index caller : Nat} {phase : Pool.Phase (ExecutionContext Environment)},
    session.renderer.phaseOf? index caller = some phase → ¬ phase.IsFinal →
    ∃ job, session.Occupies job index caller

/-- Whoever is new at a desk is the attempt that a call has just begun. -/
theorem phaseOf?_cases_of_turn (hready : session.Ready)
    (hturn : Turn engine session action next) {index caller : Nat}
    {phase : Pool.Phase (ExecutionContext Environment)}
    (hphase : next.renderer.phaseOf? index caller = some phase) :
    (∃ before, session.renderer.phaseOf? index caller = some before) ∨
      ∃ job, next.Occupies job index caller := by
  cases hturn with
  | @work time job renderer events hstep =>
      obtain ⟨before, after, hbefore, hstride⟩ := Renderer.exists_stride_of_step hstep
      rcases hstride.phaseOf?_cases hphase with hearlier | ⟨attempt, hattempt, hplace⟩
      · exact .inl hearlier
      · exact .inr ⟨job, after, attempt, hstride.job_eq hbefore, hattempt, hplace⟩
  | serve hinstallation hserves hstep =>
      refine .inl (Renderer.exists_phaseOf?_of_setDesk
        (Renderer.desk_of_installation hinstallation)
        (Pool.Desk.length_callers_of_move (Pool.Desk.move_of_step hstep) ?_) hphase)
      rintro time millis rfl
      exact hserves
  | publish hchange hinstallation harchive =>
      rw [Renderer.phaseOf?, Renderer.desks_setCache] at hphase
      exact .inl ⟨phase, hphase⟩
  | install hrenewal =>
      obtain ⟨size, hcreate⟩ := hready hrenewal
      obtain ⟨desk, hdesk, hcaller⟩ := Option.bind_eq_some_iff.mp hphase
      rw [Renderer.desks_install] at hdesk
      rcases getElem?_append_cases hdesk with hold | ⟨-, rfl⟩
      · rw [List.getElem?_modify] at hold
        obtain ⟨before, hbefore, rfl⟩ := Option.map_eq_some_iff.mp hold
        refine .inl ⟨phase, ?_⟩
        rw [Renderer.phaseOf?_of_desk hbefore, ← hcaller]
        split <;> rfl
      · rw [hcreate] at hcaller
        simp [Pool.Desk.phase?, Pool.Desk.create] at hcaller
  | _ => exact .inl ⟨phase, hphase⟩

theorem manned_of_turn (hready : session.Ready) (hmanned : session.Manned)
    (hturn : Turn engine session action next) : next.Manned := by
  intro index caller phase hphase hfinal
  rcases phaseOf?_cases_of_turn hready hturn hphase with ⟨before, hbefore⟩ | hnew
  · have hearlier : ¬ before.IsFinal := by
      intro hdone
      have hsame := (phaseOf?_of_isFinal hturn hbefore hdone).symm.trans hphase
      exact hfinal (Option.some.inj hsame ▸ hdone)
    obtain ⟨job, state, attempt, hjob, hattempt, rfl, rfl⟩ := hmanned hbefore hearlier
    obtain ⟨after, hafter, rfl | ⟨time, events, -, hstride⟩⟩ := exists_job_of_turn hturn hjob
    · exact ⟨job, after, attempt, hafter, hattempt, rfl, rfl⟩
    · rcases hstride.attempt?_or_isFinal hattempt with hgoes | ⟨done, hdone, hisFinal⟩
      · exact ⟨job, after, attempt, hafter, hgoes, rfl, rfl⟩
      · exact absurd (Option.some.inj (hdone.symm.trans hphase) ▸ hisFinal) hfinal
  · exact hnew

theorem manned_of_reachable (hreach : Reachable engine session) : session.Manned := by
  refine hreach.induction (motive := fun session => session.Manned) ?_ ?_
  · intro world setup sources first hstart
    obtain ⟨installation, hbuild, rfl⟩ := start_eq_ok hstart
    obtain ⟨size, hcreate⟩ := exists_size_of_build hbuild
    intro index caller phase hphase
    obtain ⟨desk, hdesk, hcaller⟩ := Option.bind_eq_some_iff.mp hphase
    obtain rfl := List.mem_singleton.mp (List.mem_of_getElem? hdesk)
    rw [hcreate] at hcaller
    simp [Pool.Desk.phase?, Pool.Desk.create] at hcaller
  · intro session action next hreach hturn hmanned
    exact manned_of_turn (numbered_of_reachable hreach).1 hmanned hturn

/-- A call that is in the middle of an attempt has not returned. -/
theorem answer?_of_occupies {job index caller : Nat}
    (hoccupies : session.Occupies job index caller) : session.renderer.answer? job = none := by
  obtain ⟨state, attempt, hjob, hattempt, -⟩ := hoccupies
  simp only [Renderer.answer?, hjob, Option.map_some]
  split
  · next result hfinished =>
      rw [Option.some.inj hfinished] at hattempt
      contradiction
  · rfl

/-- When a call returns, all of its attempts are over: each was refused, or it has given
its context back. -/
theorem isFinal_of_answer (hreach : Reachable engine session) {job : Nat}
    {answer : Except RenderError Answer} {trace : Trace} {attempt : Attempt}
    (hanswer : session.renderer.answer? job = some answer)
    (htrace : session.traces[job]? = some trace) (hmem : attempt ∈ trace.attempts) :
    ∃ phase, session.renderer.phaseOf? attempt.installation attempt.caller = some phase ∧
      phase.IsFinal := by
  have hseated := seated_of_reachable hreach
  obtain ⟨phase, hphase⟩ := hseated.placed htrace hmem
  refine ⟨phase, hphase, ?_⟩
  by_contra hfinal
  obtain ⟨worker, hoccupies⟩ := manned_of_reachable hreach hphase hfinal
  have hunanswered := answer?_of_occupies hoccupies
  obtain ⟨state, present, hjob, hpresent, hinstallation, hcaller⟩ := hoccupies
  obtain ⟨rest, log, hworkerTrace⟩ := hseated.current hjob hpresent
  obtain rfl := hseated.apart hworkerTrace htrace List.mem_cons_self hmem hinstallation hcaller
  rw [hanswer] at hunanswered
  contradiction

/-- The caller has got a context, and it still holds it or has given it back. -/
def Lent (session : Session World Environment) (attempt : Attempt) : Prop :=
  (∃ context, session.renderer.phaseOf? attempt.installation attempt.caller =
    some (.holding context)) ∨
  session.renderer.phaseOf? attempt.installation attempt.caller = some .returned

theorem lent_of_turn {attempt : Attempt} (hlent : session.Lent attempt)
    (hturn : Turn engine session action next) : next.Lent attempt := by
  rcases hlent with ⟨context, hphase⟩ | hreturned
  · by_cases hwork : ∃ time job, action = .work time job
    · obtain ⟨time, job, rfl⟩ := hwork
      cases hturn with
      | work hstep =>
          obtain ⟨before, after, -, hstride⟩ := Renderer.exists_stride_of_step hstep
          exact hstride.lent hphase
    · refine .inl ⟨context, phaseOf?_of_turn hturn hphase trivial ?_⟩
      intro time job state other haction
      exact absurd ⟨time, job, haction⟩ hwork
  · exact .inr (phaseOf?_of_isFinal hturn hreturned trivial)

theorem lent_of_reaches {attempt : Attempt} (hlent : session.Lent attempt)
    (hlater : Reaches engine session later) : later.Lent attempt := by
  induction hlater with
  | refl => exact hlent
  | tail _ hturn ih =>
      obtain ⟨action, hturn⟩ := hturn
      exact lent_of_turn ih hturn

/-- A call that has got a context has given it back when it returns. -/
theorem returned_of_answer (hreach : Reachable engine session) {job : Nat} {trace : Trace}
    {attempt : Attempt} {answer : Except RenderError Answer} (hlent : session.Lent attempt)
    (hanswer : session.renderer.answer? job = some answer)
    (htrace : session.traces[job]? = some trace) (hmem : attempt ∈ trace.attempts) :
    session.renderer.phaseOf? attempt.installation attempt.caller = some .returned := by
  obtain ⟨phase, hphase, hfinal⟩ := isFinal_of_answer hreach hanswer htrace hmem
  rcases hlent with ⟨context, hholding⟩ | hreturned
  · obtain rfl := Option.some.inj (hholding.symm.trans hphase)
    exact hfinal.elim
  · exact hreturned

def inProgress (session : Session World Environment) : List Nat :=
  (List.range session.renderer.jobs.length).filter fun job =>
    (session.renderer.answer? job).isNone

theorem mem_inProgress_of_occupies {job index caller : Nat}
    (hoccupies : session.Occupies job index caller) : job ∈ session.inProgress := by
  have hunanswered := answer?_of_occupies hoccupies
  obtain ⟨state, -, hjob, -⟩ := hoccupies
  have hlt := (List.getElem?_eq_some_iff.mp hjob).1
  simp [inProgress, hlt, hunanswered]

/-- A call is at one place at most. -/
theorem caller_eq_of_occupies {job index caller other : Nat}
    (hcaller : session.Occupies job index caller) (hother : session.Occupies job index other) :
    caller = other := by
  obtain ⟨state, attempt, hjob, hattempt, -, rfl⟩ := hcaller
  obtain ⟨same, otherAttempt, hsame, hotherAttempt, -, rfl⟩ := hother
  obtain rfl := Option.some.inj (hjob.symm.trans hsame)
  rw [Option.some.inj (hattempt.symm.trans hotherAttempt)]

/-- Every context that is lent or being made is so for a call in progress. -/
theorem exists_occupies_of_mem (hmanned : session.Manned) {index id : Nat}
    {desk : Pool.Desk (ExecutionContext Environment)}
    (hdesk : session.renderer.desks[index]? = some desk)
    (hmem : id ∈ desk.occupied ExecutionContext.id) :
    ∃ job caller phase, session.Occupies job index caller ∧
      session.renderer.phaseOf? index caller = some phase ∧
      phase.occupant? ExecutionContext.id = some id := by
  obtain ⟨entry, hentry, hoccupant⟩ := List.mem_filterMap.mp hmem
  obtain ⟨caller, hcaller⟩ := List.mem_iff_getElem?.mp hentry
  have hphase : session.renderer.phaseOf? index caller = some entry.phase := by
    rw [Renderer.phaseOf?_of_desk hdesk]
    exact Pool.Desk.phase?_eq_some_iff.mpr ⟨entry, hcaller, rfl⟩
  have hfinal : ¬ entry.phase.IsFinal := by
    intro hfinal
    cases hentryPhase : entry.phase <;> simp_all [Pool.Phase.occupant?, Pool.Phase.IsFinal]
  obtain ⟨job, hoccupies⟩ := hmanned hphase hfinal
  exact ⟨job, caller, entry.phase, hoccupies, hphase, hoccupant⟩

theorem engaged_le_inProgress (hreach : Reachable engine session) {index : Nat}
    {desk : Pool.Desk (ExecutionContext Environment)}
    (hdesk : session.renderer.desks[index]? = some desk) :
    desk.engaged ≤ session.inProgress.length := by
  have hmanned : session.Manned := manned_of_reachable hreach
  have hall : ∀ id ∈ desk.occupied ExecutionContext.id, ∃ job caller phase,
      session.Occupies job index caller ∧
      session.renderer.phaseOf? index caller = some phase ∧
      phase.occupant? ExecutionContext.id = some id :=
    fun id hmem => exists_occupies_of_mem hmanned hdesk hmem
  choose! jobOf callerOf phaseOf hjobs using hall
  have hnodup := ((numbered_of_reachable hreach).2 index desk hdesk).ids_nodup.of_append_right
  -- One call for each context, and no two contexts have the same one: a call is at one
  -- place at a time, and what is there has one number.
  have hapart : ((desk.occupied ExecutionContext.id).map jobOf).Nodup := by
    refine hnodup.map_on ?_
    intro one hone two htwo hsame
    obtain ⟨honeOccupies, honePhase, honeId⟩ := hjobs one hone
    obtain ⟨htwoOccupies, htwoPhase, htwoId⟩ := hjobs two htwo
    rw [hsame] at honeOccupies
    rw [caller_eq_of_occupies honeOccupies htwoOccupies, htwoPhase] at honePhase
    rw [← Option.some.inj honePhase, htwoId] at honeId
    exact (Option.some.inj honeId).symm
  have hsubset : (desk.occupied ExecutionContext.id).map jobOf ⊆ session.inProgress := by
    intro job hmem
    obtain ⟨id, hid, rfl⟩ := List.mem_map.mp hmem
    exact mem_inProgress_of_occupies (hjobs id hid).1
  calc
    desk.engaged = ((desk.occupied ExecutionContext.id).map jobOf).length := by
      rw [List.length_map, Pool.Desk.length_occupied]
    _ ≤ session.inProgress.length := (hapart.subperm hsubset).length_le

/-! ## Contexts that are made -/

def engagedAt (session : Session World Environment) (index : Nat) : Nat :=
  ((session.renderer.desks[index]?).map Pool.Desk.engaged).getD 0

def Action.makes (index : Nat) : Action World Environment → Nat
  | .serve place action => if place = index then action.makes else 0
  | _ => 0

theorem engagedAt_of_desk {index : Nat} {desk : Pool.Desk (ExecutionContext Environment)}
    (hdesk : session.renderer.desks[index]? = some desk) :
    session.engagedAt index = desk.engaged := by
  simp [engagedAt, hdesk]

theorem engagedAt_le_inProgress (hreach : Reachable engine session) (index : Nat) :
    session.engagedAt index ≤ session.inProgress.length := by
  cases hdesk : session.renderer.desks[index]? with
  | none => simp [engagedAt, hdesk]
  | some desk =>
      rw [engagedAt_of_desk hdesk]
      exact engaged_le_inProgress hreach hdesk

/-- What a turn may make of a desk, with the number of contexts that it has made there:
nothing, a move, or work on a context that a caller holds. -/
inductive Advances (desk : Pool.Desk (ExecutionContext Environment)) :
    Nat → Pool.Desk (ExecutionContext Environment) → Prop
  | same : Advances desk 0 desk
  | move {action : Pool.Action (ExecutionContext Environment)}
      {after : Pool.Desk (ExecutionContext Environment)} (hmove : desk.Move action after) :
      Advances desk action.makes after
  | work (caller : Nat) (worked : ExecutionContext Environment) :
      Advances desk 0 (desk.updateHeld caller worked)

theorem advances_of_setDesk {renderer : Renderer World Environment} {place index made : Nat}
    {before after desk : Pool.Desk (ExecutionContext Environment)}
    (hbefore : renderer.desks[place]? = some before) (hadvances : Advances before made after)
    (hdesk : (renderer.setDesk place after).desks[index]? = some desk) :
    ∃ earlier, renderer.desks[index]? = some earlier ∧
      Advances earlier (if place = index then made else 0) desk := by
  rw [Renderer.desks_setDesk] at hdesk
  rcases getElem?_set_cases hdesk with ⟨rfl, rfl⟩ | ⟨hne, hold⟩
  · rw [if_pos rfl]
    exact ⟨before, hbefore, hadvances⟩
  · rw [if_neg hne]
    exact ⟨desk, hold, .same⟩

theorem advances_of_stride {renderer after : Renderer World Environment} {job index : Nat}
    {before state : Job Environment} {events : List Log.Event}
    {desk : Pool.Desk (ExecutionContext Environment)}
    (hstride : Renderer.Stride engine renderer job before state after events)
    (hdesk : after.desks[index]? = some desk) :
    ∃ earlier, renderer.desks[index]? = some earlier ∧ Advances earlier 0 desk := by
  cases hstride with
  | arrive time hinstallation hget =>
      simpa [Pool.Action.makes] using advances_of_setDesk
        (Renderer.desk_of_installation hinstallation) (.move (.arrive time _)) hdesk
  | endWork hgates hinstallation =>
      simpa using advances_of_setDesk
        (Renderer.desk_of_installation hinstallation) (.work _ _) hdesk
  | leave hinstallation hmove =>
      simpa [Pool.Action.makes] using advances_of_setDesk
        (Renderer.desk_of_installation hinstallation) (.move hmove) hdesk
  | _ => exact ⟨desk, hdesk, .same⟩

/-- The pool of every installation has advanced from what it was before the turn, or it is
a new one. -/
theorem advances_of_turn (hready : session.Ready) (hturn : Turn engine session action next)
    {index : Nat} {desk : Pool.Desk (ExecutionContext Environment)}
    (hdesk : next.renderer.desks[index]? = some desk) :
    (∃ earlier, session.renderer.desks[index]? = some earlier ∧
      Advances earlier (action.makes index) desk) ∨
    session.renderer.desks.length = index ∧ action.makes index = 0 ∧
      ∃ size, desk = .create size := by
  cases hturn with
  | work hstep =>
      obtain ⟨before, after, -, hstride⟩ := Renderer.exists_stride_of_step hstep
      exact .inl (advances_of_stride hstride hdesk)
  | serve hinstallation hserves hstep =>
      exact .inl (advances_of_setDesk (Renderer.desk_of_installation hinstallation)
        (.move (Pool.Desk.move_of_step hstep)) hdesk)
  | publish hchange hinstallation harchive =>
      rw [Renderer.desks_setCache] at hdesk
      exact .inl ⟨desk, hdesk, .same⟩
  | install hrenewal =>
      rw [Renderer.desks_install] at hdesk
      rcases getElem?_append_cases hdesk with hold | ⟨hlast, rfl⟩
      · rw [List.getElem?_modify] at hold
        obtain ⟨before, hbefore, rfl⟩ := Option.map_eq_some_iff.mp hold
        refine .inl ⟨before, hbefore, ?_⟩
        split
        · exact .move .shutdown
        · exact .same
      · rw [List.length_modify] at hlast
        exact .inr ⟨hlast, rfl, hready hrenewal⟩
  | _ => exact .inl ⟨desk, hdesk, .same⟩

theorem length_desks_le_of_turn (hturn : Turn engine session action next) :
    session.renderer.desks.length ≤ next.renderer.desks.length := by
  simpa [Renderer.templates, Renderer.desks] using (templates_prefix_of_turn hturn).length_le

/-- No context is made for a pool that is not there yet. -/
theorem makes_of_length_le (hturn : Turn engine session action next) {index : Nat}
    (hle : session.renderer.desks.length ≤ index) : action.makes index = 0 := by
  cases hturn with
  | @serve place installation action desk events hinstallation hserves hstep =>
      have hlt := (List.getElem?_eq_some_iff.mp
        (Renderer.desk_of_installation hinstallation)).1
      exact if_neg (by omega)
  | _ => rfl

/-- A pool that has advanced is drawn on no more than callers have ever had to do with. -/
theorem drawn_of_advances {desk after : Pool.Desk (ExecutionContext Environment)}
    {count made peak : Nat} (hadvances : Advances desk count after)
    (hbalanced : Pool.Balanced ExecutionContext.id desk.pool
      (desk.occupied ExecutionContext.id)) (hdrawn : desk.Drawn made peak) :
    after.Drawn (made + count) (max peak after.engaged) := by
  cases hadvances with
  | same => exact hdrawn.mono (Nat.le_max_left _ _)
  | move hmove => exact Pool.Desk.drawn_of_move hmove hbalanced hdrawn
  | work caller worked =>
      exact (Pool.Desk.drawn_updateHeld worked hdrawn).mono (Nat.le_max_left _ _)

end Session

/-- A session with a record that nothing reads. -/
structure Census (World Environment : Type) where
  session : Session World Environment
  /-- How many contexts were made so far for each pool. -/
  made : Nat → Nat
  /-- How many contexts the callers of each pool have held or made at most at one time. -/
  peak : Nat → Nat
  /-- How many calls were in progress at most at one time. -/
  calls : Nat

namespace Census

def ofSession (session : Session World Environment) : Census World Environment :=
  ⟨session, fun _ => 0, session.engagedAt, session.inProgress.length⟩

def follow (census : Census World Environment) (action : Session.Action World Environment)
    (next : Session World Environment) : Census World Environment where
  session := next
  made index := census.made index + action.makes index
  peak index := max (census.peak index) (next.engagedAt index)
  calls := max census.calls next.inProgress.length

inductive Turn (engine : Engine World Environment) (census : Census World Environment) :
    Census World Environment → Prop
  | turn (action : Session.Action World Environment) {next : Session World Environment}
      (hturn : Session.Turn engine census.session action next) :
      Turn engine census (census.follow action next)

def Reaches (engine : Engine World Environment) :
    Census World Environment → Census World Environment → Prop :=
  Relation.ReflTransGen (Turn engine)

def Reachable (engine : Engine World Environment) (census : Census World Environment) : Prop :=
  ∃ world setup sources first, Session.start world setup sources = .ok first ∧
    Reaches engine (ofSession first) census

variable {census next later : Census World Environment}

theorem session_of_reaches (hreaches : Reaches engine census later) :
    Session.Reaches engine census.session later.session := by
  induction hreaches with
  | refl => exact .refl
  | tail _ hturn ih =>
      cases hturn with
      | turn action hturn => exact ih.tail ⟨action, hturn⟩

theorem session_of_reachable (hreach : Reachable engine census) :
    Session.Reachable engine census.session := by
  obtain ⟨world, setup, sources, first, hstart, hreaches⟩ := hreach
  exact ⟨world, setup, sources, first, hstart, session_of_reaches hreaches⟩

/-- Every run of a session has its record. -/
theorem exists_census {session final : Session World Environment}
    (hreaches : Session.Reaches engine session final) :
    ∃ census, census.session = final ∧ Reaches engine (ofSession session) census := by
  induction hreaches with
  | refl => exact ⟨ofSession session, rfl, .refl⟩
  | tail _ hturn ih =>
      obtain ⟨action, hturn⟩ := hturn
      obtain ⟨census, rfl, hcensus⟩ := ih
      exact ⟨_, rfl, hcensus.tail (.turn action hturn)⟩

/-- What was made and what is counted is within the record of what was in use together,
and that is within the record of calls. -/
structure Kept (census : Census World Environment) : Prop where
  drawn : ∀ {index : Nat} {desk : Pool.Desk (ExecutionContext Environment)},
    census.session.renderer.desks[index]? = some desk →
    desk.Drawn (census.made index) (census.peak index)
  unmade : ∀ {index : Nat}, census.session.renderer.desks.length ≤ index →
    census.made index = 0
  peak_le : ∀ index, census.peak index ≤ census.calls

theorem kept_of_start (engine : Engine World Environment) {world : World} {setup : Setup}
    {sources : Sources} {first : Session World Environment}
    (hstart : Session.start world setup sources = .ok first) : (ofSession first).Kept where
  drawn := by
    intro index desk hdesk
    obtain ⟨installation, hbuild, rfl⟩ := Session.start_eq_ok hstart
    obtain ⟨size, hcreate⟩ := Session.exists_size_of_build hbuild
    obtain rfl := List.mem_singleton.mp (List.mem_of_getElem? hdesk)
    rw [hcreate]
    exact Pool.Desk.drawn_create size _
  unmade _ := rfl
  peak_le index := by
    have hreach : Session.Reachable engine first :=
      ⟨world, setup, sources, first, hstart, .refl⟩
    exact Session.engagedAt_le_inProgress hreach index

theorem kept_of_turn (hreach : Session.Reachable engine census.session) (hkept : census.Kept)
    (hturn : Turn engine census next) : next.Kept := by
  obtain ⟨hready, hnumbered⟩ := Session.numbered_of_reachable hreach
  cases hturn with
  | @turn action session hturn =>
      have hnext : Session.Reachable engine session :=
        hreach.trans (Relation.ReflTransGen.single ⟨action, hturn⟩)
      refine ⟨?_, ?_, ?_⟩
      · intro index desk hdesk
        have hengaged : session.engagedAt index = desk.engaged :=
          Session.engagedAt_of_desk hdesk
        simp only [follow, hengaged]
        rcases Session.advances_of_turn hready hturn hdesk with
          ⟨earlier, hearlier, hadvances⟩ | ⟨hlast, hmakes, size, rfl⟩
        · exact Session.drawn_of_advances hadvances (hnumbered index earlier hearlier)
            (hkept.drawn hearlier)
        · rw [hkept.unmade (Nat.le_of_eq hlast), hmakes]
          exact Pool.Desk.drawn_create size _
      · intro index hle
        have hbefore := Nat.le_trans (Session.length_desks_le_of_turn hturn) hle
        simp only [follow, hkept.unmade hbefore, Session.makes_of_length_le hturn hbefore]
      · intro index
        exact Nat.max_le.mpr ⟨Nat.le_trans (hkept.peak_le index) (Nat.le_max_left _ _),
          Nat.le_trans (Session.engagedAt_le_inProgress hnext index) (Nat.le_max_right _ _)⟩

theorem kept_of_reachable (hreach : Reachable engine census) : census.Kept := by
  obtain ⟨world, setup, sources, first, hstart, hreaches⟩ := hreach
  induction hreaches with
  | refl => exact kept_of_start engine hstart
  | tail hbefore hturn ih =>
      have hsession : Session.Reachable engine _ :=
        session_of_reachable ⟨world, setup, sources, first, hstart, hbefore⟩
      exact kept_of_turn hsession ih hturn

/-! ## Lending -/

structure Lends (census : Census World Environment) : Prop where
  /-- What a pool counts, and all that was ever made for it, is no more than what callers
  have held or were making together at one time. -/
  on_demand : ∀ {index : Nat} {desk : Pool.Desk (ExecutionContext Environment)},
    census.session.renderer.desks[index]? = some desk →
    desk.pool.status.created ≤ census.peak index ∧ census.made index ≤ census.peak index
  /-- While no two calls have overlapped, a pool has had one context made at most. -/
  alone : census.calls ≤ 1 → ∀ index, census.made index ≤ 1
  /-- When a call returns, each of its attempts was refused or has given its context
  back. -/
  concluded : ∀ {job : Nat} {answer : Except RenderError Answer} {trace : Trace}
    {attempt : Attempt}, census.session.renderer.answer? job = some answer →
    census.session.traces[job]? = some trace → attempt ∈ trace.attempts →
    ∃ phase, census.session.renderer.phaseOf? attempt.installation attempt.caller =
      some phase ∧ phase.IsFinal
  /-- Without calls in progress nothing is in use. -/
  unused : census.session.inProgress = [] →
    ∀ {index : Nat} {desk : Pool.Desk (ExecutionContext Environment)},
      census.session.renderer.desks[index]? = some desk → desk.pool.status.inUse = 0

theorem lends_of_reachable (hreach : Reachable engine census) : census.Lends := by
  have hkept := kept_of_reachable hreach
  have hsession := session_of_reachable hreach
  refine ⟨fun hdesk => ?_, fun halone index => ?_,
    fun hanswer htrace hmem => Session.isFinal_of_answer hsession hanswer htrace hmem,
    fun hnone index desk hdesk => ?_⟩
  · have hdrawn := hkept.drawn hdesk
    exact ⟨hdrawn.created_le_peak, hdrawn.made_le_peak⟩
  · cases hdesk : census.session.renderer.desks[index]? with
    | none =>
        rw [hkept.unmade (List.getElem?_eq_none_iff.mp hdesk)]
        exact Nat.zero_le 1
    | some desk =>
        calc
          census.made index ≤ census.peak index := (hkept.drawn hdesk).made_le_peak
          _ ≤ census.calls := hkept.peak_le index
          _ ≤ 1 := halone
  · have hengaged := Session.engaged_le_inProgress hsession hdesk
    rw [hnone, List.length_nil] at hengaged
    have hcreated := ((Session.numbered_of_reachable hsession).2 index desk hdesk).created_eq
    rw [Pool.Desk.length_occupied] at hcreated
    simp only [Pool.status]
    omega

/-- Contexts are made on demand and always come back, whatever the engine does and however
the steps of the calls follow each other.  A call that has held a context at any time has
given it back when it returns. -/
theorem contexts_come_back (hreach : Reachable engine census) :
    census.Lends ∧
      ∀ {later : Census World Environment}, Reaches engine census later →
        ∀ {job : Nat} {answer : Except RenderError Answer} {trace : Trace} {attempt : Attempt}
          {context : ExecutionContext Environment},
          census.session.renderer.phaseOf? attempt.installation attempt.caller =
            some (.holding context) →
          later.session.renderer.answer? job = some answer →
          later.session.traces[job]? = some trace → attempt ∈ trace.attempts →
          later.session.renderer.phaseOf? attempt.installation attempt.caller =
            some .returned := by
  refine ⟨lends_of_reachable hreach, ?_⟩
  intro later hlater job answer trace attempt context hholding hanswer htrace hmem
  have hreaches := session_of_reaches hlater
  have hlent : later.session.Lent attempt :=
    Session.lent_of_reaches (.inl ⟨context, hholding⟩) hreaches
  exact Session.returned_of_answer ((session_of_reachable hreach).trans hreaches) hlent hanswer
    htrace hmem

/-- Two loads that follow each other use the same context. -/
theorem contexts_come_back_to_next_call :
    ∃ lent later : Census Unit String, Reachable Session.echoEngine lent ∧
      Reaches Session.echoEngine lent later ∧
      lent.session.renderer.phaseOf? 0 0 = some (.holding (.create 0)) ∧
      later.session.renderer.answer? 0 = some (.ok (.loaded true)) ∧
      later.session.renderer.answer? 1 = some (.ok (.loaded false)) ∧
      later.calls = 1 ∧ later.made 0 = 1 ∧ lent.Lends ∧
      later.session.renderer.phaseOf? 0 0 = some .returned := by
  have hlent : Reaches Session.echoEngine
      (ofSession (Session.plainSession () ⟨[("A", "code")]⟩)) _ :=
    ((((Relation.ReflTransGen.refl.tail
      (.turn _ (.accept (.load "A")))).tail
      (.turn (.work 0 0) (.work rfl))).tail
      (.turn (.work 0 0) (.work rfl))).tail
      (.turn (.serve 0 (.look 0)) (.serve rfl trivial rfl))).tail
      (.turn (.serve 0 (.build 0 (.ok (.create 0)))) (.serve rfl ⟨0, rfl, rfl⟩ rfl))
  have hreach : Reachable Session.echoEngine _ :=
    ⟨(), Session.plainSetup, ⟨[("A", "code")]⟩, _, Session.start_plainSetup () _, hlent⟩
  obtain ⟨lent, later, hreach, hlater, hholding, hfirst, hsecond, hcalls, hmade, trace,
      htrace, hmem⟩ :
      ∃ lent later : Census Unit String, Reachable Session.echoEngine lent ∧
        Reaches Session.echoEngine lent later ∧
        lent.session.renderer.phaseOf? 0 0 = some (.holding (.create 0)) ∧
        later.session.renderer.answer? 0 = some (.ok (.loaded true)) ∧
        later.session.renderer.answer? 1 = some (.ok (.loaded false)) ∧
        later.calls = 1 ∧ later.made 0 = 1 ∧
        ∃ trace, later.session.traces[0]? = some trace ∧
          (⟨0, 0, .assemble "A" "" "code" 1, ""⟩ : Attempt) ∈ trace.attempts :=
    ⟨_, _, hreach,
      (((((((((Relation.ReflTransGen.refl.tail
        (.turn (.work 0 0) (.work rfl))).tail
        (.turn (.work 0 0) (.work rfl))).tail
        (.turn (.work 0 0) (.work rfl))).tail
        (.turn _ (.accept (.load "A")))).tail
        (.turn (.work 0 1) (.work rfl))).tail
        (.turn (.work 0 1) (.work rfl))).tail
        (.turn (.serve 0 (.look 1)) (.serve rfl trivial rfl))).tail
        (.turn (.work 0 1) (.work rfl))).tail
        (.turn (.work 0 1) (.work rfl))).tail
        (.turn (.work 0 1) (.work rfl)),
      rfl, rfl, rfl, rfl, rfl, _, rfl, List.mem_cons_self⟩
  obtain ⟨hlends, hcomes⟩ := contexts_come_back hreach
  exact ⟨lent, later, hreach, hlater, hholding, hfirst, hsecond, hcalls, hmade, hlends,
    hcomes hlater hholding hfirst htrace hmem⟩

end Census

end ServerRender
