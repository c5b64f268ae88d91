import ServerRender.Pool.Desk
import ServerRender.Proofs.Places

/-!
# Moves at a desk

Every step of a desk is one of the moves listed here, with all that it depends on and
all that it changes.  Later modules follow the moves and leave the step function
closed.
-/

namespace ServerRender.Pool

variable {Context : Type}

theorem look_of_closed {pool : Pool Context} (hclosed : pool.closed = true) :
    pool.look = (pool, .shutDown) := by
  simp [look, hclosed]

theorem look_of_idle {pool : Pool Context} {context : Context} {rest : List Context}
    (hopen : pool.closed = false) (hidle : pool.idle = context :: rest) :
    pool.look = ({ pool with idle := rest }, .taken context) := by
  simp [look, hopen, hidle]

theorem look_of_room {pool : Pool Context} (hopen : pool.closed = false)
    (hidle : pool.idle = []) (hroom : pool.created < pool.size) :
    pool.look =
      ({ pool with created := pool.created + 1, nextId := pool.nextId + 1 },
        .reserved pool.nextId) := by
  simp [look, hopen, hidle, hroom]

theorem look_of_full {pool : Pool Context} (hopen : pool.closed = false)
    (hidle : pool.idle = []) (hfull : pool.size ≤ pool.created) :
    pool.look = (pool, .full) := by
  simp [look, hopen, hidle, Nat.not_lt.2 hfull]

theorem lastLook_of_closed {pool : Pool Context} (hclosed : pool.closed = true) :
    pool.lastLook = (pool, .shutDown) := by
  simp [lastLook, hclosed]

theorem lastLook_of_idle {pool : Pool Context} {context : Context} {rest : List Context}
    (hopen : pool.closed = false) (hidle : pool.idle = context :: rest) :
    pool.lastLook = ({ pool with idle := rest }, .taken context) := by
  simp [lastLook, hopen, hidle]

theorem lastLook_of_empty {pool : Pool Context} (hopen : pool.closed = false)
    (hidle : pool.idle = []) : pool.lastLook = (pool, .full) := by
  simp [lastLook, hopen, hidle]

theorem release_of_open {pool : Pool Context} (hopen : pool.closed = false)
    (context : Context) :
    pool.release context = ({ pool with idle := context :: pool.idle }, false) := by
  simp [Pool.release, hopen]

@[simp]
theorem closed_release (pool : Pool Context) (context : Context) :
    (pool.release context).1.closed = pool.closed := by
  cases hclosed : pool.closed <;> simp [Pool.release, hclosed]

/-- A phase that nobody but the caller itself ends. -/
def Phase.IsSettled : Phase Context → Prop
  | .holding _ => True
  | .refused _ => True
  | .returned => True
  | _ => False

/-- A phase that nobody ever ends. -/
def Phase.IsFinal : Phase Context → Prop
  | .refused _ => True
  | .returned => True
  | _ => False

theorem Phase.isSettled_of_isFinal {phase : Phase Context} (hfinal : phase.IsFinal) :
    phase.IsSettled := by
  cases phase with
  | holding context => trivial
  | refused error => trivial
  | returned => trivial
  | _ => exact hfinal

theorem Phase.woken_of_isSettled {phase : Phase Context} (hsettled : phase.IsSettled) :
    phase.woken = phase := by
  cases phase with
  | parked => exact hsettled.elim
  | _ => rfl

namespace Desk

@[simp]
theorem pool_setPhase (desk : Desk Context) (caller : Nat) (phase : Phase Context) :
    (desk.setPhase caller phase).pool = desk.pool := rfl

@[simp]
theorem length_callers_setPhase (desk : Desk Context) (caller : Nat)
    (phase : Phase Context) :
    (desk.setPhase caller phase).callers.length = desk.callers.length := by
  simp [setPhase]

theorem phase?_eq_some_iff {desk : Desk Context} {caller : Nat} {phase : Phase Context} :
    desk.phase? caller = some phase ↔
      ∃ entry, desk.callers[caller]? = some entry ∧ entry.phase = phase := by
  simp [phase?]

theorem phase?_setPhase_self {desk : Desk Context} {caller : Nat}
    {before after : Phase Context} (hphase : desk.phase? caller = some before) :
    (desk.setPhase caller after).phase? caller = some after := by
  obtain ⟨entry, hentry, -⟩ := phase?_eq_some_iff.1 hphase
  simp [phase?, setPhase, hentry]

theorem phase?_setPhase_of_ne {desk : Desk Context} {caller other : Nat}
    {phase : Phase Context} (hne : caller ≠ other) :
    (desk.setPhase caller phase).phase? other = desk.phase? other := by
  simp [phase?, setPhase, hne]

theorem phase?_lt {desk : Desk Context} {caller : Nat} {phase : Phase Context}
    (hphase : desk.phase? caller = some phase) : caller < desk.callers.length := by
  obtain ⟨entry, hentry, -⟩ := phase?_eq_some_iff.1 hphase
  exact (List.getElem?_eq_some_iff.1 hentry).1

theorem exists_phase? {desk : Desk Context} {caller : Nat}
    (hlt : caller < desk.callers.length) : ∃ phase, desk.phase? caller = some phase :=
  ⟨_, phase?_eq_some_iff.2 ⟨_, List.getElem?_eq_getElem hlt, rfl⟩⟩

theorem phase?_arrive {desk : Desk Context} {caller : Nat} {phase : Phase Context}
    (time millis : Nat) (hphase : desk.phase? caller = some phase) :
    (desk.arrive time millis).phase? caller = some phase := by
  have hlt := phase?_lt hphase
  simpa [phase?, arrive, List.getElem?_append_left hlt] using hphase

theorem phase?_setPhase_cases {desk : Desk Context} {caller moved : Nat}
    {phase after : Phase Context}
    (hphase : (desk.setPhase moved after).phase? caller = some phase) :
    (moved = caller ∧ phase = after) ∨ desk.phase? caller = some phase := by
  by_cases hmoved : moved = caller
  · subst hmoved
    obtain ⟨before, hbefore⟩ := exists_phase? (by simpa using phase?_lt hphase)
    rw [phase?_setPhase_self hbefore] at hphase
    exact .inl ⟨rfl, (Option.some.inj hphase).symm⟩
  · exact .inr ((phase?_setPhase_of_ne hmoved).symm.trans hphase)

theorem phase?_arrive_cases {desk : Desk Context} {caller time millis : Nat}
    {phase : Phase Context}
    (hphase : (desk.arrive time millis).phase? caller = some phase) :
    phase = .looking ∨ desk.phase? caller = some phase := by
  obtain ⟨entry, hentry, rfl⟩ := phase?_eq_some_iff.1 hphase
  rcases getElem?_append_cases hentry with hold | ⟨-, rfl⟩
  · exact .inr (phase?_eq_some_iff.2 ⟨entry, hold, rfl⟩)
  · exact .inl rfl

theorem phase?_announce_cases {desk : Desk Context} {caller : Nat} {phase : Phase Context}
    (hphase : phase? { desk with
      closing := false
      callers := desk.callers.map fun c => { c with phase := c.phase.woken } } caller =
        some phase) :
    ∃ before, desk.phase? caller = some before ∧ phase = before.woken := by
  obtain ⟨entry, hentry, rfl⟩ := phase?_eq_some_iff.1 hphase
  rw [List.getElem?_map] at hentry
  obtain ⟨found, hfound, rfl⟩ := Option.map_eq_some_iff.1 hentry
  exact ⟨found.phase, phase?_eq_some_iff.2 ⟨found, hfound, rfl⟩, rfl⟩

theorem phase?_updateHeld_of_ne {desk : Desk Context} {caller other : Nat}
    (context : Context) (hne : caller ≠ other) :
    (desk.updateHeld caller context).phase? other = desk.phase? other := by
  simp only [updateHeld]
  split
  · exact phase?_setPhase_of_ne hne
  · rfl

@[simp]
theorem length_callers_updateHeld (desk : Desk Context) (caller : Nat) (context : Context) :
    (desk.updateHeld caller context).callers.length = desk.callers.length := by
  simp only [updateHeld]
  split
  · exact length_callers_setPhase desk caller _
  · rfl

theorem updateHeld_of_holding {desk : Desk Context} {caller : Nat} {context : Context}
    (hphase : desk.phase? caller = some (.holding context)) (worked : Context) :
    desk.updateHeld caller worked = desk.setPhase caller (.holding worked) := by
  simp [updateHeld, hphase]

theorem phase?_updateHeld_of_isFinal {desk : Desk Context} {caller : Nat}
    {phase : Phase Context} (hphase : desk.phase? caller = some phase)
    (hfinal : phase.IsFinal) (worker : Nat) (worked : Context) :
    (desk.updateHeld worker worked).phase? caller = some phase := by
  by_cases hworker : worker = caller
  · subst hworker
    cases phase with
    | refused error => simp [updateHeld, hphase]
    | returned => simp [updateHeld, hphase]
    | _ => exact hfinal.elim
  · exact (phase?_updateHeld_of_ne worked hworker).trans hphase

def Looks (desk : Desk Context) (caller : Nat) : Prop :=
  desk.phase? caller = some .looking ∨ desk.phase? caller = some .timedOut

/-! ## The moves -/

inductive Move (desk : Desk Context) : Action Context → Desk Context → Prop
  | arrive (time millis : Nat) : Move desk (.arrive time millis) (desk.arrive time millis)
  /-- The pool is closed. -/
  | turnAway {caller : Nat} (hlooks : desk.Looks caller)
      (hclosed : desk.pool.closed = true) :
      Move desk (.look caller) (desk.setPhase caller (.refused .poolShutdown))
  | take {caller : Nat} {context : Context} {rest : List Context}
      (hlooks : desk.Looks caller) (hopen : desk.pool.closed = false)
      (hidle : desk.pool.idle = context :: rest) :
      Move desk (.look caller)
        ({ desk with pool := { desk.pool with idle := rest } }.setPhase caller
          (.holding context))
  | reserve {caller : Nat} (hphase : desk.phase? caller = some .looking)
      (hopen : desk.pool.closed = false) (hidle : desk.pool.idle = [])
      (hroom : desk.pool.created < desk.pool.size) :
      Move desk (.look caller)
        ({ desk with
          pool := { desk.pool with
            created := desk.pool.created + 1, nextId := desk.pool.nextId + 1 } }.setPhase
          caller (.building desk.pool.nextId))
  | park {caller : Nat} (hphase : desk.phase? caller = some .looking)
      (hopen : desk.pool.closed = false) (hidle : desk.pool.idle = [])
      (hfull : desk.pool.size ≤ desk.pool.created) :
      Move desk (.look caller) (desk.setPhase caller .parked)
  /-- The time is up and no context is idle. -/
  | giveUp {caller millis deadline : Nat}
      (hcaller : desk.callers[caller]? = some ⟨millis, deadline, .timedOut⟩)
      (hopen : desk.pool.closed = false) (hidle : desk.pool.idle = []) :
      Move desk (.look caller) (desk.setPhase caller (.refused (.exhaustedAfter millis)))
  | made {caller id : Nat} {context : Context}
      (hphase : desk.phase? caller = some (.building id)) :
      Move desk (.build caller (.ok context)) (desk.setPhase caller (.holding context))
  | failed {caller id : Nat} {error : RenderError}
      (hphase : desk.phase? caller = some (.building id)) :
      Move desk (.build caller (.error error))
        ({ desk with
          pool := desk.pool.cancel, notices := desk.notices + 1 }.setPhase caller
            (.refused error))
  /-- A notice that nobody waits for. -/
  | drop (hnotices : desk.notices ≠ 0) (hparked : desk.parked = []) :
      Move desk (.notify none) { desk with notices := desk.notices - 1 }
  | notify {caller notices : Nat} (hnotices : desk.notices = notices + 1)
      (hphase : desk.phase? caller = some .parked) :
      Move desk (.notify (some caller)) ({ desk with notices }.setPhase caller .looking)
  | announce (hclosing : desk.closing = true) :
      Move desk .announce
        { desk with
          closing := false
          callers := desk.callers.map fun c => { c with phase := c.phase.woken } }
  | expire {caller : Nat} (hphase : desk.phase? caller = some .parked) :
      Move desk (.expire caller) (desk.setPhase caller .timedOut)
  | wake {caller : Nat} (hphase : desk.phase? caller = some .parked) :
      Move desk (.wake caller) (desk.setPhase caller .looking)
  | release {caller : Nat} {context : Context}
      (hphase : desk.phase? caller = some (.holding context)) :
      Move desk (.release caller)
        ({ desk with
          pool := (desk.pool.release context).1
          notices := if (desk.pool.release context).2 then desk.notices
            else desk.notices + 1 }.setPhase caller .returned)
  | shutdown : Move desk .shutdown desk.shutdown

private theorem move_of_look {desk next : Desk Context} {caller millis deadline : Nat}
    {events : List Log.Event}
    (hcaller : desk.callers[caller]? = some ⟨millis, deadline, .looking⟩)
    (hstep : desk.lookStep caller millis false desk.pool.look = (next, events)) :
    Move desk (.look caller) next := by
  have hphase : desk.phase? caller = some .looking := by simp [phase?, hcaller]
  cases hclosed : desk.pool.closed with
  | true =>
      rw [look_of_closed hclosed] at hstep
      obtain ⟨rfl, -⟩ := Prod.mk.inj hstep
      exact .turnAway (.inl hphase) hclosed
  | false =>
      cases hidle : desk.pool.idle with
      | cons context rest =>
          rw [look_of_idle hclosed hidle] at hstep
          obtain ⟨rfl, -⟩ := Prod.mk.inj hstep
          exact .take (.inl hphase) hclosed hidle
      | nil =>
          by_cases hroom : desk.pool.created < desk.pool.size
          · rw [look_of_room hclosed hidle hroom] at hstep
            obtain ⟨rfl, -⟩ := Prod.mk.inj hstep
            exact .reserve hphase hclosed hidle hroom
          · rw [look_of_full hclosed hidle (Nat.not_lt.1 hroom)] at hstep
            obtain ⟨rfl, -⟩ := Prod.mk.inj hstep
            exact .park hphase hclosed hidle (Nat.not_lt.1 hroom)

private theorem move_of_lastLook {desk next : Desk Context} {caller millis deadline : Nat}
    {events : List Log.Event}
    (hcaller : desk.callers[caller]? = some ⟨millis, deadline, .timedOut⟩)
    (hstep : desk.lookStep caller millis true desk.pool.lastLook = (next, events)) :
    Move desk (.look caller) next := by
  have hphase : desk.phase? caller = some .timedOut := by simp [phase?, hcaller]
  cases hclosed : desk.pool.closed with
  | true =>
      rw [lastLook_of_closed hclosed] at hstep
      obtain ⟨rfl, -⟩ := Prod.mk.inj hstep
      exact .turnAway (.inr hphase) hclosed
  | false =>
      cases hidle : desk.pool.idle with
      | cons context rest =>
          rw [lastLook_of_idle hclosed hidle] at hstep
          obtain ⟨rfl, -⟩ := Prod.mk.inj hstep
          exact .take (.inr hphase) hclosed hidle
      | nil =>
          rw [lastLook_of_empty hclosed hidle] at hstep
          obtain ⟨rfl, -⟩ := Prod.mk.inj hstep
          exact .giveUp hcaller hclosed hidle

theorem move_of_step {desk next : Desk Context} {action : Action Context}
    {events : List Log.Event} (hstep : desk.step action = some (next, events)) :
    Move desk action next := by
  cases action with
  | arrive time millis =>
      obtain ⟨rfl, -⟩ := Prod.mk.inj (Option.some.inj hstep)
      exact .arrive time millis
  | look caller =>
      simp only [step] at hstep
      split at hstep
      · next millis deadline hcaller =>
          exact move_of_look hcaller (Option.some.inj hstep)
      · next millis deadline hcaller =>
          exact move_of_lastLook hcaller (Option.some.inj hstep)
      · contradiction
  | build caller made =>
      simp only [step] at hstep
      split at hstep
      · next hphase =>
          obtain ⟨rfl, -⟩ := Prod.mk.inj (Option.some.inj hstep)
          exact .made hphase
      · next hphase =>
          obtain ⟨rfl, -⟩ := Prod.mk.inj (Option.some.inj hstep)
          exact .failed hphase
      · contradiction
  | notify target =>
      cases target with
      | none =>
          simp only [step] at hstep
          split at hstep
          · contradiction
          · next hpossible =>
              obtain ⟨rfl, -⟩ := Prod.mk.inj (Option.some.inj hstep)
              simp only [Bool.or_eq_true, decide_eq_true_eq, Bool.not_eq_true',
                not_or, Bool.not_eq_false, List.isEmpty_iff] at hpossible
              exact .drop hpossible.1 hpossible.2
      | some caller =>
          simp only [step] at hstep
          split at hstep
          · next notices hnotices hphase =>
              obtain ⟨rfl, -⟩ := Prod.mk.inj (Option.some.inj hstep)
              exact .notify hnotices hphase
          · contradiction
  | announce =>
      simp only [step] at hstep
      split at hstep
      · next hclosing =>
          obtain ⟨rfl, -⟩ := Prod.mk.inj (Option.some.inj hstep)
          exact .announce hclosing
      · contradiction
  | expire caller =>
      simp only [step] at hstep
      split at hstep
      · next hphase =>
          obtain ⟨rfl, -⟩ := Prod.mk.inj (Option.some.inj hstep)
          exact .expire hphase
      · contradiction
  | wake caller =>
      simp only [step] at hstep
      split at hstep
      · next hphase =>
          obtain ⟨rfl, -⟩ := Prod.mk.inj (Option.some.inj hstep)
          exact .wake hphase
      · contradiction
  | release caller =>
      simp only [step] at hstep
      split at hstep
      · next context hphase =>
          obtain ⟨rfl, -⟩ := Prod.mk.inj (Option.some.inj hstep)
          exact .release hphase
      · contradiction
  | shutdown =>
      obtain ⟨rfl, -⟩ := Prod.mk.inj (Option.some.inj hstep)
      exact .shutdown

/-! ## What moves keep -/

section Keep

variable {desk next : Desk Context} {action : Action Context} {caller : Nat}
variable {phase : Phase Context}

private theorem phase?_setPhase_of_settled {moved : Nat} {before : Phase Context}
    (after : Phase Context) (hmoved : desk.phase? moved = some before)
    (hbefore : ¬ before.IsSettled) (hphase : desk.phase? caller = some phase)
    (hsettled : phase.IsSettled) :
    (desk.setPhase moved after).phase? caller = some phase := by
  by_cases hsame : moved = caller
  · subst hsame
    obtain rfl := Option.some.inj (hmoved.symm.trans hphase)
    exact absurd hsettled hbefore
  · rw [phase?_setPhase_of_ne hsame, hphase]

/-- Whatever happens at a desk, nobody else takes a context out of a caller's hands or
changes an answer that a caller has got. -/
theorem phase?_of_move (hmove : Move desk action next)
    (hphase : desk.phase? caller = some phase) (hsettled : phase.IsSettled)
    (hrelease : action ≠ .release caller) : next.phase? caller = some phase := by
  cases hmove with
  | arrive time millis => exact phase?_arrive time millis hphase
  | turnAway hlooks hclosed =>
      rcases hlooks with hmoved | hmoved <;>
        exact phase?_setPhase_of_settled _ hmoved (fun h => h) hphase hsettled
  | take hlooks hopen hidle =>
      rcases hlooks with hmoved | hmoved <;>
        exact phase?_setPhase_of_settled _ hmoved (fun h => h) hphase hsettled
  | reserve hmoved hopen hidle hroom =>
      exact phase?_setPhase_of_settled _ hmoved (fun h => h) hphase hsettled
  | park hmoved hopen hidle hfull =>
      exact phase?_setPhase_of_settled _ hmoved (fun h => h) hphase hsettled
  | giveUp hcaller hopen hidle =>
      have hmoved := phase?_eq_some_iff.2 ⟨_, hcaller, rfl⟩
      exact phase?_setPhase_of_settled _ hmoved (fun h => h) hphase hsettled
  | made hmoved => exact phase?_setPhase_of_settled _ hmoved (fun h => h) hphase hsettled
  | failed hmoved => exact phase?_setPhase_of_settled _ hmoved (fun h => h) hphase hsettled
  | drop hnotices hparked => exact hphase
  | notify hnotices hmoved =>
      exact phase?_setPhase_of_settled _ hmoved (fun h => h) hphase hsettled
  | announce hclosing =>
      obtain ⟨entry, hentry, rfl⟩ := phase?_eq_some_iff.1 hphase
      simp [phase?, hentry, Phase.woken_of_isSettled hsettled]
  | expire hmoved => exact phase?_setPhase_of_settled _ hmoved (fun h => h) hphase hsettled
  | wake hmoved => exact phase?_setPhase_of_settled _ hmoved (fun h => h) hphase hsettled
  | @release moved context hmoved =>
      have hne : moved ≠ caller := by
        rintro rfl
        exact hrelease rfl
      exact (phase?_setPhase_of_ne hne).trans hphase
  | shutdown => exact hphase

/-- Only the caller itself gives its context back. -/
theorem returned_of_move (hmove : Move desk action next)
    (hreturned : next.phase? caller = some .returned) :
    desk.phase? caller = some .returned ∨ action = .release caller := by
  have hset : ∀ {moved : Nat} {after : Phase Context}, after ≠ .returned →
      (desk.setPhase moved after).phase? caller = some .returned →
      desk.phase? caller = some .returned := by
    intro moved after hafter hphase
    rcases phase?_setPhase_cases hphase with ⟨-, hsame⟩ | hold
    · exact absurd hsame.symm hafter
    · exact hold
  cases hmove with
  | arrive time millis =>
      exact (phase?_arrive_cases hreturned).elim (nomatch ·) .inl
  | drop hnotices hparked => exact .inl hreturned
  | announce hclosing =>
      obtain ⟨before, hbefore, hwoken⟩ := phase?_announce_cases hreturned
      cases before with
      | returned => exact .inl hbefore
      | _ => contradiction
  | release hphase =>
      rcases phase?_setPhase_cases hreturned with ⟨rfl, -⟩ | hold
      · exact .inr rfl
      · exact .inl hold
  | shutdown => exact .inl hreturned
  | _ => exact .inl (hset (by simp) hreturned)

theorem length_callers_le_of_move (hmove : Move desk action next) :
    desk.callers.length ≤ next.callers.length := by
  cases hmove <;> simp [setPhase, arrive, shutdown]

private theorem mem_contexts_setPhase {after : Phase Context} {context : Context}
    (hmem : context ∈ (desk.setPhase caller after).contexts) :
    context ∈ desk.contexts ∨ after = .holding context := by
  rcases List.mem_append.1 hmem with hidle | hheld
  · exact .inl (List.mem_append_left _ hidle)
  obtain ⟨entry, hentry, hcontext⟩ := List.mem_filterMap.1 hheld
  obtain ⟨position, hposition⟩ := List.mem_iff_getElem?.1 hentry
  simp only [setPhase, List.getElem?_modify] at hposition
  obtain ⟨found, hfound, rfl⟩ := Option.map_eq_some_iff.1 hposition
  split at hcontext
  · cases after with
    | holding held => exact .inr (congrArg Phase.holding (Option.some.inj hcontext))
    | _ => contradiction
  · refine .inl (List.mem_append_right _ (List.mem_filterMap.2 ⟨found, ?_, hcontext⟩))
    exact List.mem_of_getElem? hfound

private theorem mem_contexts_setPhase_of_none {after : Phase Context} {context : Context}
    (hafter : after.context? = none)
    (hmem : context ∈ (desk.setPhase caller after).contexts) : context ∈ desk.contexts := by
  rcases mem_contexts_setPhase hmem with hmem | rfl
  · exact hmem
  · contradiction

private theorem mem_contexts_of_idle_subset (pool : Pool Context) {context : Context}
    (hidle : ∀ other ∈ pool.idle, other ∈ desk.contexts)
    (hmem : context ∈ ({ desk with pool } : Desk Context).contexts) :
    context ∈ desk.contexts := by
  rcases List.mem_append.1 hmem with hmem | hheld
  · exact hidle context hmem
  · exact List.mem_append_right _ hheld

theorem mem_contexts_of_phase? {context : Context}
    (hphase : desk.phase? caller = some (.holding context)) : context ∈ desk.contexts := by
  obtain ⟨entry, hentry, hentryPhase⟩ := phase?_eq_some_iff.1 hphase
  refine List.mem_append_right _ (List.mem_filterMap.2 ⟨entry, List.mem_of_getElem? hentry, ?_⟩)
  rw [hentryPhase]
  rfl

theorem mem_contexts_arrive {time millis : Nat} {context : Context}
    (hmem : context ∈ (desk.arrive time millis).contexts) : context ∈ desk.contexts := by
  simpa [contexts, held, arrive, Phase.context?] using hmem

theorem mem_contexts_updateHeld {worked context : Context}
    (hmem : context ∈ (desk.updateHeld caller worked).contexts) :
    context ∈ desk.contexts ∨ context = worked := by
  simp only [updateHeld] at hmem
  split at hmem
  · rcases mem_contexts_setPhase hmem with hmem | hsame
    · exact .inl hmem
    · exact .inr (Phase.holding.inj hsame).symm
  · exact .inl hmem

/-- No context comes to a desk but those that are made there. -/
theorem mem_contexts_of_move {context : Context} (hmove : Move desk action next)
    (hmem : context ∈ next.contexts) :
    context ∈ desk.contexts ∨ ∃ maker, action = .build maker (.ok context) := by
  cases hmove with
  | arrive time millis => exact .inl (mem_contexts_arrive hmem)
  | turnAway hlooks hclosed =>
      exact .inl (mem_contexts_setPhase_of_none rfl hmem)
  | @take taker taken rest hlooks hopen hidle =>
      have hrest : ∀ other ∈ rest, other ∈ desk.contexts := by
        intro other hother
        refine List.mem_append_left _ ?_
        rw [hidle]
        exact List.mem_cons_of_mem taken hother
      rcases mem_contexts_setPhase hmem with hmem | hsame
      · exact .inl (mem_contexts_of_idle_subset { desk.pool with idle := rest } hrest hmem)
      · obtain rfl := Phase.holding.inj hsame
        refine .inl (List.mem_append_left _ ?_)
        rw [hidle]
        exact List.mem_cons_self
  | reserve hphase hopen hidle hroom =>
      exact .inl (mem_contexts_setPhase_of_none rfl hmem)
  | park hphase hopen hidle hfull =>
      exact .inl (mem_contexts_setPhase_of_none rfl hmem)
  | giveUp hcaller hopen hidle =>
      exact .inl (mem_contexts_setPhase_of_none rfl hmem)
  | @made maker id made hphase =>
      rcases mem_contexts_setPhase hmem with hmem | hsame
      · exact .inl hmem
      · obtain rfl := Phase.holding.inj hsame
        exact .inr ⟨maker, rfl⟩
  | failed hphase =>
      exact .inl (mem_contexts_setPhase_of_none rfl hmem)
  | drop hnotices hparked => exact .inl hmem
  | notify hnotices hphase =>
      exact .inl (mem_contexts_setPhase_of_none rfl hmem)
  | announce hclosing =>
      refine .inl ?_
      have hheld : (desk.callers.map fun c => { c with phase := c.phase.woken }).filterMap
          (fun c => c.phase.context?) = desk.held := by
        rw [List.filterMap_map, held]
        congr 1
        funext entry
        obtain ⟨millis, deadline, phase⟩ := entry
        cases phase <;> rfl
      rwa [contexts, held, hheld] at hmem
  | expire hphase =>
      exact .inl (mem_contexts_setPhase_of_none rfl hmem)
  | wake hphase =>
      exact .inl (mem_contexts_setPhase_of_none rfl hmem)
  | @release releaser released hphase =>
      refine .inl ?_
      have hidle : ∀ other ∈ (desk.pool.release released).1.idle, other ∈ desk.contexts := by
        intro other hother
        cases hclosed : desk.pool.closed with
        | true =>
            simp only [Pool.release, hclosed, if_true] at hother
            exact List.mem_append_left _ hother
        | false =>
            simp only [Pool.release, hclosed, Bool.false_eq_true, if_false] at hother
            rcases List.mem_cons.1 hother with rfl | hother
            · exact mem_contexts_of_phase? hphase
            · exact List.mem_append_left _ hother
      exact mem_contexts_of_idle_subset _ hidle (mem_contexts_setPhase_of_none rfl hmem)
  | shutdown =>
      have hidle : ∀ other ∈ desk.pool.shutdown.1.idle, other ∈ desk.contexts := by
        intro other hother
        cases hclosed : desk.pool.closed with
        | true =>
            simp only [Pool.shutdown, hclosed, if_true] at hother
            exact List.mem_append_left _ hother
        | false => simp [Pool.shutdown, hclosed] at hother
      exact .inl (mem_contexts_of_idle_subset _ hidle hmem)

end Keep

end Desk

end ServerRender.Pool
