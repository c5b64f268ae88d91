import ServerRender.Pool.Schedule
import ServerRender.Proofs.Pool.Move

/-!
# Callers who come one at a time

A caller who comes when all others have been served gets a context at once, either an
idle one or a new one, and when it has given the context back, the next caller finds the
desk as quiet as this one did.
-/

namespace ServerRender.Pool

variable {Context : Type}

def lend (make : Nat → Context) (pool : Pool Context) : Context × Pool Context :=
  match pool.idle with
  | context :: rest => (context, { pool with idle := rest })
  | [] =>
    (make pool.nextId, { pool with created := pool.created + 1, nextId := pool.nextId + 1 })

theorem lend_of_idle {make : Nat → Context} {pool : Pool Context} {context : Context}
    {rest : List Context} (hidle : pool.idle = context :: rest) :
    pool.lend make = (context, { pool with idle := rest }) := by
  rw [lend, hidle]

theorem lend_of_nil {make : Nat → Context} {pool : Pool Context} (hidle : pool.idle = []) :
    pool.lend make =
      (make pool.nextId,
        { pool with created := pool.created + 1, nextId := pool.nextId + 1 }) := by
  simp only [lend, hidle]

theorem closed_lend (make : Nat → Context) (pool : Pool Context) :
    (pool.lend make).2.closed = pool.closed := by
  simp only [lend]
  split
  · rfl
  · rfl

/-- The context that is lent was idle, or is new. -/
theorem lend_cases (make : Nat → Context) (pool : Pool Context) :
    (pool.lend make).1 ∈ pool.idle ∨ (pool.lend make).1 = make pool.nextId := by
  cases hidle : pool.idle with
  | nil =>
      rw [lend_of_nil hidle]
      exact .inr rfl
  | cons context rest =>
      rw [lend_of_idle hidle]
      exact .inl List.mem_cons_self

theorem mem_idle_of_lend {make : Nat → Context} {pool : Pool Context} {context : Context}
    (hmem : context ∈ (pool.lend make).2.idle) : context ∈ pool.idle := by
  cases hidle : pool.idle with
  | nil =>
      rw [lend_of_nil hidle] at hmem
      rw [← hidle]
      exact hmem
  | cons first rest =>
      rw [lend_of_idle hidle] at hmem
      exact List.mem_cons_of_mem first hmem

namespace Desk

variable {desk next : Desk Context} {caller : Caller Context} {pool : Pool Context}
variable {factory : Factory Context} {make : Nat → Context} {notices : Nat}

/-- All callers have been served, and the pool has a context or room for one. -/
structure Quiet (desk : Desk Context) : Prop where
  served : ∀ caller ∈ desk.callers, caller.phase.IsFinal
  notices_eq : desk.notices = 0
  closing_eq : desk.closing = false
  closed_eq : desk.pool.closed = false
  room : desk.pool.idle ≠ [] ∨ desk.pool.created < desk.pool.size

theorem quiet_create {size : Nat} (hsize : 0 < size) : (create size : Desk Context).Quiet where
  served := by simp [create]
  notices_eq := rfl
  closing_eq := rfl
  closed_eq := rfl
  room := .inr hsize

def joined (desk : Desk Context) (pool : Pool Context) (caller : Caller Context)
    (notices : Nat) : Desk Context :=
  ⟨pool, desk.callers ++ [caller], notices, false⟩

theorem phase?_joined :
    (desk.joined pool caller notices).phase? desk.callers.length = some caller.phase := by
  simp [phase?, joined]

theorem setPhase_joined (phase : Phase Context) :
    (desk.joined pool caller notices).setPhase desk.callers.length phase =
      desk.joined pool { caller with phase } notices := by
  simp only [setPhase, joined]
  rw [modify_concat_length]

theorem ownAction?_of_isSettled {phase : Phase Context} (hsettled : phase.IsSettled)
    (index : Nat) : ownAction? factory index phase = none := by
  cases phase with
  | holding context => rfl
  | refused error => rfl
  | returned => rfl
  | _ => exact hsettled.elim

/-- Callers who are served or busy do nothing of their own accord. -/
theorem findSome?_ownAction? {count : Nat}
    (hsettled : ∀ index < count, ∀ phase, desk.phase? index = some phase → phase.IsSettled) :
    (List.range count).findSome?
      (fun index => (desk.phase? index).bind (ownAction? factory index)) = none := by
  rw [List.findSome?_eq_none_iff]
  intro index hindex
  rw [List.mem_range] at hindex
  cases hphase : desk.phase? index with
  | none => rfl
  | some phase => exact ownAction?_of_isSettled (hsettled index hindex phase hphase) index

theorem isSettled_of_mem (hsettled : ∀ caller ∈ desk.callers, caller.phase.IsSettled)
    {index : Nat} {phase : Phase Context} (hphase : desk.phase? index = some phase) :
    phase.IsSettled := by
  obtain ⟨caller, hcaller, rfl⟩ := Option.map_eq_some_iff.mp hphase
  exact hsettled caller (List.mem_of_getElem? hcaller)

theorem parked_of_isSettled (hsettled : ∀ caller ∈ desk.callers, caller.phase.IsSettled) :
    desk.parked = [] := by
  rw [parked, List.filter_eq_nil_iff]
  intro index hindex hparked
  obtain ⟨phase, hphase, hparked⟩ := (Option.any_eq_true _ _).mp hparked
  cases phase with
  | parked => exact isSettled_of_mem hsettled hphase
  | _ => contradiction

/-- Where nobody waits, nothing is left to do but to drop notices. -/
theorem urgent?_of_isSettled (hsettled : ∀ caller ∈ desk.callers, caller.phase.IsSettled)
    (hclosing : desk.closing = false) :
    desk.urgent? factory = if desk.notices = 0 then none else some (.notify none) := by
  have hown : (List.range desk.callers.length).findSome?
      (fun index => (desk.phase? index).bind (ownAction? factory index)) = none :=
    findSome?_ownAction? fun index _ phase hphase => isSettled_of_mem hsettled hphase
  simp only [urgent?, hown, hclosing, parked_of_isSettled hsettled]
  rfl

/-- Where all others have been served, it is the last caller's turn. -/
theorem urgent?_joined {action : Action Context}
    (hserved : ∀ caller ∈ desk.callers, caller.phase.IsFinal)
    (haction : ownAction? factory desk.callers.length caller.phase = some action) :
    (desk.joined pool caller notices).urgent? factory = some action := by
  have hothers : (List.range desk.callers.length).findSome?
      (fun index => ((desk.joined pool caller notices).phase? index).bind
        (ownAction? factory index)) = none := by
    apply findSome?_ownAction?
    intro index hindex phase hphase
    apply Phase.isSettled_of_isFinal
    rw [phase?, joined, List.getElem?_append_left hindex] at hphase
    obtain ⟨other, hother, rfl⟩ := Option.map_eq_some_iff.mp hphase
    exact hserved other (List.mem_of_getElem? hother)
  have hlength : (desk.joined pool caller notices).callers.length =
      desk.callers.length + 1 := by
    simp [joined]
  simp only [urgent?]
  rw [hlength, List.range_succ, List.findSome?_append, hothers]
  simp [phase?_joined, haction]

/-! ## Serving -/

theorem runUrgent_eq_self (hsettled : ∀ caller ∈ desk.callers, caller.phase.IsSettled)
    (hclosing : desk.closing = false) (hnotices : desk.notices = 0) (count : Nat) :
    (desk.runUrgent factory count).1 = desk := by
  cases count with
  | zero => rfl
  | succ count =>
      rw [runUrgent, urgent?_of_isSettled hsettled hclosing, if_pos hnotices]
      rfl

theorem runUrgent_of_urgent {action : Action Context} {events : List Log.Event} {count : Nat}
    (hurgent : desk.urgent? factory = some action)
    (hstep : desk.step action = some (next, events)) :
    (desk.runUrgent factory (count + 1)).1 = (next.runUrgent factory count).1 := by
  rw [runUrgent, hurgent, Option.bind_some, hstep]

theorem Quiet.settle_eq (hquiet : desk.Quiet) : (desk.settle factory).1 = desk :=
  runUrgent_eq_self
    (fun caller hcaller => Phase.isSettled_of_isFinal (hquiet.served caller hcaller))
    hquiet.closing_eq hquiet.notices_eq _

theorem isSettled_joined (hserved : ∀ caller ∈ desk.callers, caller.phase.IsFinal)
    (hcaller : caller.phase.IsSettled) :
    ∀ other ∈ (desk.joined pool caller notices).callers, other.phase.IsSettled := by
  intro other hother
  rcases List.mem_append.mp hother with hother | hother
  · exact Phase.isSettled_of_isFinal (hserved other hother)
  · rw [List.mem_singleton.mp hother]
    exact hcaller

theorem runUrgent_joined (hserved : ∀ caller ∈ desk.callers, caller.phase.IsFinal)
    (hcaller : caller.phase.IsSettled) (count : Nat) :
    ((desk.joined pool caller 0).runUrgent factory count).1 = desk.joined pool caller 0 :=
  runUrgent_eq_self (isSettled_joined hserved hcaller) rfl rfl count

theorem settle_joined (hserved : ∀ caller ∈ desk.callers, caller.phase.IsFinal)
    (hcaller : caller.phase.IsSettled) :
    ((desk.joined pool caller 0).settle factory).1 = desk.joined pool caller 0 :=
  runUrgent_joined hserved hcaller _

/-- A notice that finds nobody waiting is dropped. -/
theorem settle_noticed (hserved : ∀ caller ∈ desk.callers, caller.phase.IsFinal)
    (hcaller : caller.phase.IsSettled) :
    ((desk.joined pool caller 1).settle factory).1 = desk.joined pool caller 0 := by
  have hsettled : ∀ other ∈ (desk.joined pool caller 1).callers, other.phase.IsSettled :=
    isSettled_joined hserved hcaller
  have hurgent : (desk.joined pool caller 1).urgent? factory = some (.notify none) :=
    urgent?_of_isSettled hsettled rfl
  have hstep : (desk.joined pool caller 1).step (.notify none) =
      some (desk.joined pool caller 0, []) := by
    simp only [step, parked_of_isSettled hsettled]
    rfl
  calc
    ((desk.joined pool caller 1).settle factory).1
        = ((desk.joined pool caller 0).runUrgent factory _).1 :=
      runUrgent_of_urgent hurgent hstep
    _ = desk.joined pool caller 0 := runUrgent_joined hserved hcaller _

/-- The phase of a caller who looks for a context when nobody else does. -/
theorem step_look_joined (desk : Desk Context) (pool : Pool Context) (millis deadline : Nat) :
    (desk.joined pool ⟨millis, deadline, .looking⟩ 0).step (.look desk.callers.length) =
      some (desk.joined pool.look.1
        ⟨millis, deadline, (phaseAfterLook pool.size millis false pool.look.2).1⟩ 0,
        (phaseAfterLook pool.size millis false pool.look.2).2) := by
  have hcaller : (desk.joined pool ⟨millis, deadline, .looking⟩ 0).callers[desk.callers.length]? =
      some ⟨millis, deadline, .looking⟩ := List.getElem?_concat_length
  simp only [step, hcaller]
  exact congrArg (fun desk => some (desk, _)) (setPhase_joined _)

theorem step_build_joined {millis deadline id : Nat} (context : Context) :
    (desk.joined pool ⟨millis, deadline, .building id⟩ 0).step
        (.build desk.callers.length (.ok context)) =
      some (desk.joined pool ⟨millis, deadline, .holding context⟩ 0, []) := by
  simp only [step, phase?_joined]
  rw [setPhase_joined]

/-- A caller who comes to a quiet desk gets a context. -/
theorem settle_arrive (hquiet : desk.Quiet) (time millis : Nat) :
    ((desk.arrive time millis).settle fun id => .ok (make id)).1 =
      desk.joined (desk.pool.lend make).2
        ⟨millis, time + millis, .holding (desk.pool.lend make).1⟩ 0 := by
  have harrive : desk.arrive time millis =
      desk.joined desk.pool ⟨millis, time + millis, .looking⟩ 0 := by
    simp [arrive, joined, hquiet.notices_eq, hquiet.closing_eq]
  have hlooks : (desk.joined desk.pool ⟨millis, time + millis, .looking⟩ 0).urgent?
      (fun id => .ok (make id)) = some (.look desk.callers.length) :=
    urgent?_joined hquiet.served rfl
  have hlook := step_look_joined desk desk.pool millis (time + millis)
  have hholding : Phase.IsSettled (.holding (desk.pool.lend make).1) := trivial
  cases hidle : desk.pool.idle with
  | cons context rest =>
      rw [look_of_idle hquiet.closed_eq hidle] at hlook
      rw [lend_of_idle hidle] at hholding ⊢
      rw [harrive]
      exact (runUrgent_of_urgent hlooks hlook).trans
        (runUrgent_joined hquiet.served hholding _)
  | nil =>
      have hroom := hquiet.room.resolve_left (absurd hidle)
      rw [look_of_room hquiet.closed_eq hidle hroom] at hlook
      rw [lend_of_nil hidle] at hholding ⊢
      rw [harrive]
      exact (runUrgent_of_urgent hlooks hlook).trans <|
        (runUrgent_of_urgent (urgent?_joined hquiet.served rfl) (step_build_joined _)).trans
          (runUrgent_joined hquiet.served hholding _)

theorem updateHeld_joined {millis deadline : Nat} (context worked : Context) :
    (desk.joined pool ⟨millis, deadline, .holding context⟩ notices).updateHeld
        desk.callers.length worked =
      desk.joined pool ⟨millis, deadline, .holding worked⟩ notices := by
  rw [updateHeld, phase?_joined]
  exact setPhase_joined _

theorem step_release_joined {millis deadline : Nat} (context : Context)
    (hopen : pool.closed = false) :
    (desk.joined pool ⟨millis, deadline, .holding context⟩ 0).step
        (.release desk.callers.length) =
      some (desk.joined { pool with idle := context :: pool.idle }
        ⟨millis, deadline, .returned⟩ 1, []) := by
  have hrelease : (desk.joined pool ⟨millis, deadline, .holding context⟩ 0).pool.release
      context = ({ pool with idle := context :: pool.idle }, false) := release_of_open hopen context
  simp only [step, phase?_joined, hrelease]
  exact congrArg (fun desk => some (desk, [])) (setPhase_joined _)

def visited (desk : Desk Context) (make : Nat → Context) (time millis : Nat)
    (worked : Context) : Desk Context :=
  let left := (desk.pool.lend make).2
  desk.joined { left with idle := worked :: left.idle } ⟨millis, time + millis, .returned⟩ 0

theorem idle_visited (time millis : Nat) (worked : Context) :
    (desk.visited make time millis worked).pool.idle =
      worked :: (desk.pool.lend make).2.idle := rfl

theorem quiet_visited (hquiet : desk.Quiet) (time millis : Nat) (worked : Context) :
    (desk.visited make time millis worked).Quiet where
  served := by
    intro other hother
    rcases List.mem_append.mp hother with hother | hother
    · exact hquiet.served other hother
    · rw [List.mem_singleton.mp hother]
      trivial
  notices_eq := rfl
  closing_eq := rfl
  closed_eq := (closed_lend make desk.pool).trans hquiet.closed_eq
  room := .inl (List.cons_ne_nil worked _)

end Desk

end ServerRender.Pool
