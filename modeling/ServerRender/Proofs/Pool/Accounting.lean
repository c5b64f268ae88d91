import Mathlib.Logic.Relation
import ServerRender.Proofs.Pool.Move

/-!
# Accounting of a pool

A pool counts contexts from the moment a caller reserves room for one, while the
contexts themselves are idle in the pool, held by callers or still being made outside
of it.  This file proves that the count and the numbers of the contexts stay right
under every order of the callers' actions.  The numbers that callers hold or make are
followed in one list, up to order: each move only adds one of them, removes one, or
hands one on.
-/

namespace ServerRender.Pool

variable {Context : Type}

/-- The idle contexts together with `occupied`, the numbers in the hands of callers,
are all that the pool counts. -/
structure Balanced (idOf : Context → Nat) (pool : Pool Context) (occupied : List Nat) :
    Prop where
  created_eq : pool.created = pool.idle.length + occupied.length
  created_le : pool.created ≤ pool.size
  ids_nodup : (pool.idle.map idOf ++ occupied).Nodup
  ids_lt : ∀ id ∈ pool.idle.map idOf ++ occupied, id < pool.nextId
  idle_of_closed : pool.closed = true → pool.idle = []

namespace Balanced

variable {idOf : Context → Nat} {pool : Pool Context} {occupied : List Nat}

theorem empty (idOf : Context → Nat) (size : Nat) : Balanced idOf (Pool.empty size) [] where
  created_eq := rfl
  created_le := Nat.zero_le size
  ids_nodup := List.nodup_nil
  ids_lt := by simp [Pool.empty]
  idle_of_closed _ := rfl

theorem perm {others : List Nat} (hbalanced : Balanced idOf pool occupied)
    (hperm : others.Perm occupied) : Balanced idOf pool others where
  created_eq := by rw [hbalanced.created_eq, hperm.length_eq]
  created_le := hbalanced.created_le
  ids_nodup := (hperm.append_left _).nodup_iff.2 hbalanced.ids_nodup
  ids_lt id hid := hbalanced.ids_lt id ((hperm.append_left _).mem_iff.1 hid)
  idle_of_closed := hbalanced.idle_of_closed

theorem take {context : Context} {rest : List Context}
    (hbalanced : Balanced idOf pool occupied) (hidle : pool.idle = context :: rest) :
    Balanced idOf { pool with idle := rest } (idOf context :: occupied) := by
  have hperm : (rest.map idOf ++ idOf context :: occupied).Perm
      (pool.idle.map idOf ++ occupied) := by
    rw [hidle]
    exact List.perm_middle
  refine ⟨?_, hbalanced.created_le, hperm.nodup_iff.2 hbalanced.ids_nodup, ?_, ?_⟩
  · have hcreated := hbalanced.created_eq
    rw [hidle] at hcreated
    simp only [List.length_cons] at hcreated ⊢
    omega
  · intro id hid
    exact hbalanced.ids_lt id (hperm.mem_iff.1 hid)
  · intro hclosed
    rw [hbalanced.idle_of_closed hclosed] at hidle
    contradiction

theorem reserve (hbalanced : Balanced idOf pool occupied)
    (hroom : pool.created < pool.size) :
    Balanced idOf
      { pool with created := pool.created + 1, nextId := pool.nextId + 1 }
      (pool.nextId :: occupied) := by
  have hperm : (pool.idle.map idOf ++ pool.nextId :: occupied).Perm
      (pool.nextId :: (pool.idle.map idOf ++ occupied)) := List.perm_middle
  refine ⟨?_, hroom, hperm.nodup_iff.2 (List.nodup_cons.2 ⟨?_, hbalanced.ids_nodup⟩), ?_,
    hbalanced.idle_of_closed⟩
  · have hcreated := hbalanced.created_eq
    simp only [List.length_cons]
    omega
  · intro hid
    exact Nat.lt_irrefl _ (hbalanced.ids_lt _ hid)
  · intro id hid
    rcases List.mem_cons.1 (hperm.mem_iff.1 hid) with rfl | hid
    · exact Nat.lt_succ_self _
    · exact Nat.lt_succ_of_lt (hbalanced.ids_lt id hid)

/-- Giving a number up for good. -/
theorem drop {id : Nat} (hbalanced : Balanced idOf pool (id :: occupied)) :
    Balanced idOf { pool with created := pool.created - 1 } occupied := by
  have hperm : (id :: (pool.idle.map idOf ++ occupied)).Perm
      (pool.idle.map idOf ++ id :: occupied) := List.perm_middle.symm
  refine ⟨?_, ?_, (List.nodup_cons.1 (hperm.nodup_iff.2 hbalanced.ids_nodup)).2, ?_,
    hbalanced.idle_of_closed⟩
  · have hcreated := hbalanced.created_eq
    simp only [List.length_cons] at hcreated
    simp only
    omega
  · exact Nat.le_trans (Nat.sub_le _ _) hbalanced.created_le
  · intro other hother
    exact hbalanced.ids_lt other (hperm.mem_iff.1 (List.mem_cons_of_mem id hother))

theorem release {context : Context}
    (hbalanced : Balanced idOf pool (idOf context :: occupied)) :
    Balanced idOf (pool.release context).1 occupied := by
  cases hclosed : pool.closed with
  | true => simpa [Pool.release, hclosed] using hbalanced.drop
  | false =>
      have hperm : ((context :: pool.idle).map idOf ++ occupied).Perm
          (pool.idle.map idOf ++ idOf context :: occupied) := List.perm_middle.symm
      have hopened : Balanced idOf { pool with idle := context :: pool.idle } occupied := by
        refine ⟨?_, hbalanced.created_le, hperm.nodup_iff.2 hbalanced.ids_nodup, ?_, ?_⟩
        · have hcreated := hbalanced.created_eq
          simp only [List.length_cons] at hcreated ⊢
          omega
        · intro id hid
          exact hbalanced.ids_lt id (hperm.mem_iff.1 hid)
        · intro hcontra
          rw [hclosed] at hcontra
          contradiction
      simpa [Pool.release, hclosed] using hopened

theorem shutdown (hbalanced : Balanced idOf pool occupied) :
    Balanced idOf pool.shutdown.1 occupied := by
  cases hclosed : pool.closed with
  | true => simpa [Pool.shutdown, hclosed] using hbalanced
  | false =>
      have hcreated := hbalanced.created_eq
      have hdrained : Balanced idOf
          { pool with
            closed := true, idle := [], created := pool.created - pool.idle.length }
          occupied := by
        refine ⟨?_, ?_, (List.nodup_append.1 hbalanced.ids_nodup).2.1, ?_, fun _ => rfl⟩
        · simp only [List.length_nil]
          omega
        · exact Nat.le_trans (Nat.sub_le _ _) hbalanced.created_le
        · intro id hid
          exact hbalanced.ids_lt id (List.mem_append_right _ hid)
      simpa [Pool.shutdown, hclosed] using hdrained

theorem idle_le_created (hbalanced : Balanced idOf pool occupied) :
    pool.idle.length ≤ pool.created := by
  have hcreated := hbalanced.created_eq
  omega

/-- The contexts that a shutdown drains were all counted. -/
theorem shutdown_exact (hbalanced : Balanced idOf pool occupied) :
    pool.shutdown.1.created + pool.shutdown.2.length = pool.created := by
  have hidle := hbalanced.idle_le_created
  cases hclosed : pool.closed <;> simp [Pool.shutdown, hclosed]
  omega

theorem status_exact (hbalanced : Balanced idOf pool occupied) :
    pool.status.inUse + pool.status.idle = pool.status.created := by
  have hidle := hbalanced.idle_le_created
  simp only [Pool.status]
  omega

end Balanced

/-! ## Desks -/

def Phase.occupant? (idOf : Context → Nat) : Phase Context → Option Nat
  | .holding context => some (idOf context)
  | .building id => some id
  | _ => none

/-- The number that a caller has reserved, as long as it makes the context. -/
def Phase.reservation? : Phase Context → Option Nat
  | .building id => some id
  | _ => none

namespace Desk

def occupied (idOf : Context → Nat) (desk : Desk Context) : List Nat :=
  desk.callers.filterMap fun caller => caller.phase.occupant? idOf

def reserved (desk : Desk Context) : List Nat :=
  desk.callers.filterMap fun caller => caller.phase.reservation?

variable {idOf : Context → Nat}

theorem occupied_perm (idOf : Context → Nat) (desk : Desk Context) :
    (desk.occupied idOf).Perm (desk.held.map idOf ++ desk.reserved) := by
  simp only [occupied, held, reserved]
  induction desk.callers with
  | nil => exact .refl []
  | cons caller rest ih =>
      obtain ⟨millis, deadline, phase⟩ := caller
      cases phase with
      | building id =>
          simpa [Phase.occupant?, Phase.context?, Phase.reservation?] using
            (ih.cons id).trans List.perm_middle.symm
      | holding context =>
          simpa [Phase.occupant?, Phase.context?, Phase.reservation?] using ih
      | _ => simpa [Phase.occupant?, Phase.context?, Phase.reservation?] using ih

/-- What each caller's phase has a part in, in the order of the callers. -/
def gathered {α : Type} (part : Phase Context → Option α) (desk : Desk Context) : List α :=
  desk.callers.filterMap fun caller => part caller.phase

section Gathered

variable {α : Type} {desk : Desk Context} {caller : Nat} {before after : Phase Context}

/-- A change of one phase changes the part of that caller and leaves the rest. -/
theorem exists_gathered_setPhase (part : Phase Context → Option α)
    (hphase : desk.phase? caller = some before) (after : Phase Context) :
    ∃ rest, (desk.gathered part).Perm ((part before).toList ++ rest) ∧
      ((desk.setPhase caller after).gathered part).Perm ((part after).toList ++ rest) := by
  obtain ⟨entry, hentry, rfl⟩ := phase?_eq_some_iff.1 hphase
  have hlt : caller < desk.callers.length := (List.getElem?_eq_some_iff.1 hentry).1
  obtain ⟨front, found, back, hcallers, hlength, hmodified⟩ :=
    List.exists_of_modify (fun c : Caller Context => { c with phase := after }) hlt
  have hfound : found = entry := by
    rw [hcallers, ← hlength] at hentry
    simpa using hentry
  subst hfound
  refine ⟨(front ++ back).filterMap fun c => part c.phase, ?_, ?_⟩
  · have hperm : desk.callers.Perm (found :: (front ++ back)) := by
      rw [hcallers]
      exact List.perm_middle
    have hmapped := hperm.filterMap fun c : Caller Context => part c.phase
    cases hfront : part found.phase <;>
      simpa [gathered, List.filterMap_cons, hfront] using hmapped
  · have hperm : (desk.setPhase caller after).callers.Perm
        ({ found with phase := after } :: (front ++ back)) := by
      rw [setPhase, hmodified]
      exact List.perm_middle
    have hmapped := hperm.filterMap fun c : Caller Context => part c.phase
    cases hfront : part after <;>
      simpa [gathered, List.filterMap_cons, hfront] using hmapped

theorem gathered_setPhase_same (part : Phase Context → Option α)
    (hphase : desk.phase? caller = some before) (hsame : part after = part before) :
    ((desk.setPhase caller after).gathered part).Perm (desk.gathered part) := by
  obtain ⟨rest, hbefore, hafter⟩ := exists_gathered_setPhase part hphase after
  rw [hsame] at hafter
  exact hafter.trans hbefore.symm

theorem gathered_setPhase_enter {value : α} (part : Phase Context → Option α)
    (hphase : desk.phase? caller = some before) (hbefore : part before = none)
    (hafter : part after = some value) :
    ((desk.setPhase caller after).gathered part).Perm (value :: desk.gathered part) := by
  obtain ⟨rest, hold, hnew⟩ := exists_gathered_setPhase part hphase after
  rw [hbefore] at hold
  rw [hafter] at hnew
  exact hnew.trans (hold.symm.cons value)

theorem gathered_setPhase_leave {value : α} (part : Phase Context → Option α)
    (hphase : desk.phase? caller = some before) (hbefore : part before = some value)
    (hafter : part after = none) :
    (desk.gathered part).Perm (value :: (desk.setPhase caller after).gathered part) := by
  obtain ⟨rest, hold, hnew⟩ := exists_gathered_setPhase part hphase after
  rw [hbefore] at hold
  rw [hafter] at hnew
  exact hold.trans (hnew.symm.cons value)

/-- An announcement changes nothing for a part that those who wait have not. -/
theorem gathered_announce (part : Phase Context → Option α)
    (hwoken : ∀ phase, part phase.woken = part phase) :
    ({ desk with
      closing := false
      callers := desk.callers.map fun c => { c with phase := c.phase.woken } }
      : Desk Context).gathered part = desk.gathered part := by
  simp only [gathered, List.filterMap_map]
  congr 1
  funext caller
  exact hwoken caller.phase

theorem gathered_arrive (part : Phase Context → Option α) (hlooking : part .looking = none)
    (time millis : Nat) : (desk.arrive time millis).gathered part = desk.gathered part := by
  simp [gathered, arrive, hlooking]

end Gathered

theorem occupant?_woken (phase : Phase Context) :
    phase.woken.occupant? idOf = phase.occupant? idOf := by
  cases phase <;> rfl

theorem reservation?_woken (phase : Phase Context) :
    phase.woken.reservation? = phase.reservation? := by
  cases phase <;> rfl

/-! ## Runs -/

/-- A context that is made gets the number that its maker has reserved. -/
def Numbers (idOf : Context → Nat) (desk : Desk Context) : Action Context → Prop
  | .build caller (.ok context) => desk.phase? caller = some (.building (idOf context))
  | _ => True

/-- What may happen at a desk next: an action of a caller, or work of a caller on the
context that it holds, which keeps its number. -/
inductive Turn (idOf : Context → Nat) (desk : Desk Context) : Desk Context → Prop
  | act (action : Action Context) {next : Desk Context} {events : List Log.Event}
      (hstep : desk.step action = some (next, events)) (hnumbers : desk.Numbers idOf action) :
      Turn idOf desk next
  | work {caller : Nat} {context worked : Context}
      (hphase : desk.phase? caller = some (.holding context))
      (hsame : idOf worked = idOf context) : Turn idOf desk (desk.updateHeld caller worked)

/-- The desks that a new pool of some size can come to, whoever comes and whatever
order the callers act in. -/
def Reachable (idOf : Context → Nat) (size : Nat) : Desk Context → Prop :=
  Relation.ReflTransGen (Turn idOf) (create size)

theorem balanced_of_move {desk next : Desk Context} {action : Action Context}
    (hmove : Move desk action next) (hnumbers : desk.Numbers idOf action)
    (hbalanced : Balanced idOf desk.pool (desk.occupied idOf)) :
    Balanced idOf next.pool (next.occupied idOf) := by
  cases hmove with
  | arrive time millis =>
      rw [occupied, ← gathered, gathered_arrive _ rfl]
      exact hbalanced
  | turnAway hlooks hclosed =>
      rcases hlooks with hphase | hphase <;>
        exact hbalanced.perm (gathered_setPhase_same (Phase.occupant? idOf) hphase rfl)
  | take hlooks hopen hidle =>
      rcases hlooks with hphase | hphase <;>
        exact (hbalanced.take hidle).perm
          (gathered_setPhase_enter (Phase.occupant? idOf) hphase rfl rfl)
  | reserve hphase hopen hidle hroom =>
      exact (hbalanced.reserve hroom).perm
        (gathered_setPhase_enter (Phase.occupant? idOf) hphase rfl rfl)
  | park hphase hopen hidle hfull =>
      exact hbalanced.perm (gathered_setPhase_same (Phase.occupant? idOf) hphase rfl)
  | giveUp hcaller hopen hidle =>
      have hphase := phase?_eq_some_iff.2 ⟨_, hcaller, rfl⟩
      exact hbalanced.perm (gathered_setPhase_same (Phase.occupant? idOf) hphase rfl)
  | made hphase =>
      have hsame := Option.some.inj (hphase.symm.trans hnumbers)
      exact hbalanced.perm
        (gathered_setPhase_same (Phase.occupant? idOf) hphase (by rw [hsame]; rfl))
  | failed hphase =>
      exact (hbalanced.perm
        (gathered_setPhase_leave (Phase.occupant? idOf) hphase rfl rfl).symm).drop
  | drop hnotices hparked => exact hbalanced
  | notify hnotices hphase =>
      exact hbalanced.perm (gathered_setPhase_same (Phase.occupant? idOf) hphase rfl)
  | announce hclosing =>
      rw [occupied, ← gathered, gathered_announce _ occupant?_woken]
      exact hbalanced
  | expire hphase => exact hbalanced.perm (gathered_setPhase_same (Phase.occupant? idOf) hphase rfl)
  | wake hphase => exact hbalanced.perm (gathered_setPhase_same (Phase.occupant? idOf) hphase rfl)
  | release hphase =>
      exact (hbalanced.perm
        (gathered_setPhase_leave (Phase.occupant? idOf) hphase rfl rfl).symm).release
  | shutdown => exact hbalanced.shutdown

/-- Work on a context that keeps its number leaves the accounts as they are. -/
theorem balanced_updateHeld {desk : Desk Context} {caller : Nat} {context worked : Context}
    (hphase : desk.phase? caller = some (.holding context)) (hsame : idOf worked = idOf context)
    (hbalanced : Balanced idOf desk.pool (desk.occupied idOf)) :
    Balanced idOf (desk.updateHeld caller worked).pool
      ((desk.updateHeld caller worked).occupied idOf) := by
  rw [updateHeld_of_holding hphase]
  exact hbalanced.perm
    (gathered_setPhase_same (Phase.occupant? idOf) hphase (congrArg some hsame))

theorem size_of_move {desk next : Desk Context} {action : Action Context}
    (hmove : Move desk action next) : next.pool.size = desk.pool.size := by
  cases hmove with
  | release hphase =>
      cases hclosed : desk.pool.closed <;> simp [Pool.release, hclosed]
  | shutdown => cases hclosed : desk.pool.closed <;> simp [shutdown, Pool.shutdown, hclosed]
  | _ => rfl

theorem balanced_of_reachable {size : Nat} {desk : Desk Context}
    (hreach : Reachable idOf size desk) :
    desk.pool.size = size ∧ Balanced idOf desk.pool (desk.occupied idOf) := by
  induction hreach with
  | refl => exact ⟨rfl, .empty idOf size⟩
  | tail _ hturn ih =>
      obtain ⟨hsize, hbalanced⟩ := ih
      cases hturn with
      | act action hstep hnumbers =>
          have hmove := move_of_step hstep
          exact ⟨(size_of_move hmove).trans hsize,
            balanced_of_move hmove hnumbers hbalanced⟩
      | work hphase hsame =>
          refine ⟨?_, balanced_updateHeld hphase hsame hbalanced⟩
          rw [updateHeld_of_holding hphase]
          exact hsize

/-- Two callers never hold contexts of one number. -/
theorem caller_eq_of_nodup {desk : Desk Context} {caller other : Nat}
    {phase otherPhase : Phase Context} {id : Nat} (hnodup : (desk.occupied idOf).Nodup)
    (hphase : desk.phase? caller = some phase)
    (hother : desk.phase? other = some otherPhase)
    (hid : phase.occupant? idOf = some id) (hotherId : otherPhase.occupant? idOf = some id) :
    caller = other := by
  obtain ⟨entry, hentry, rfl⟩ := phase?_eq_some_iff.1 hphase
  obtain ⟨otherEntry, hotherEntry, rfl⟩ := phase?_eq_some_iff.1 hother
  rw [occupied, List.Nodup, List.pairwise_filterMap, List.pairwise_iff_getElem] at hnodup
  obtain ⟨hlt, rfl⟩ := List.getElem?_eq_some_iff.1 hentry
  obtain ⟨hotherLt, rfl⟩ := List.getElem?_eq_some_iff.1 hotherEntry
  rcases Nat.lt_trichotomy caller other with hbefore | hequal | hafter
  · exact absurd rfl (hnodup _ _ hlt hotherLt hbefore _ hid _ hotherId)
  · exact hequal
  · exact absurd rfl (hnodup _ _ hotherLt hlt hafter _ hotherId _ hid)

theorem mem_occupied_of_phase? {desk : Desk Context} {caller : Nat} {phase : Phase Context}
    {id : Nat} (hphase : desk.phase? caller = some phase)
    (hid : phase.occupant? idOf = some id) : id ∈ desk.occupied idOf := by
  obtain ⟨entry, hentry, rfl⟩ := phase?_eq_some_iff.1 hphase
  exact List.mem_filterMap.2 ⟨entry, List.mem_of_getElem? hentry, hid⟩

/-- The books of a pool are right: every context is counted once, has its own number
and is in one place, and nothing is ever taken off the count that is not in it. -/
structure Accounted (idOf : Context → Nat) (size : Nat) (desk : Desk Context) : Prop where
  size_eq : desk.pool.size = size
  created_eq :
    desk.pool.created = desk.pool.idle.length + desk.held.length + desk.reserved.length
  created_le : desk.pool.created ≤ size
  ids_nodup : (desk.pool.idle.map idOf ++ desk.held.map idOf ++ desk.reserved).Nodup
  ids_lt : ∀ id ∈ desk.pool.idle.map idOf ++ desk.held.map idOf ++ desk.reserved,
    id < desk.pool.nextId
  held_once : ∀ {caller other : Nat} {context otherContext : Context},
    desk.phase? caller = some (.holding context) →
    desk.phase? other = some (.holding otherContext) →
    idOf context = idOf otherContext → caller = other
  held_not_idle : ∀ {caller : Nat} {context : Context},
    desk.phase? caller = some (.holding context) → idOf context ∉ desk.pool.idle.map idOf
  idle_of_closed : desk.pool.closed = true → desk.pool.idle = []
  cancel_exact : ∀ {caller id : Nat}, desk.phase? caller = some (.building id) →
    desk.pool.cancel.created + 1 = desk.pool.created
  release_exact : ∀ {caller : Nat} {context : Context},
    desk.phase? caller = some (.holding context) → desk.pool.closed = true →
    (desk.pool.release context).1.created + 1 = desk.pool.created
  shutdown_exact :
    desk.pool.shutdown.1.created + desk.pool.shutdown.2.length = desk.pool.created
  status_exact : desk.pool.status.inUse + desk.pool.status.idle = desk.pool.status.created

theorem created_pos_of_phase? {desk : Desk Context} {caller id : Nat}
    {phase : Phase Context} (hbalanced : Balanced idOf desk.pool (desk.occupied idOf))
    (hphase : desk.phase? caller = some phase) (hid : phase.occupant? idOf = some id) :
    0 < desk.pool.created := by
  have hmem := mem_occupied_of_phase? hphase hid
  have hpos := List.length_pos_of_mem hmem
  have hcreated := hbalanced.created_eq
  omega

theorem accounted_of_balanced {size : Nat} {desk : Desk Context}
    (hsize : desk.pool.size = size)
    (hbalanced : Balanced idOf desk.pool (desk.occupied idOf)) :
    Accounted idOf size desk := by
  have hperm : (desk.pool.idle.map idOf ++ desk.occupied idOf).Perm
      (desk.pool.idle.map idOf ++ desk.held.map idOf ++ desk.reserved) := by
    rw [List.append_assoc]
    exact (occupied_perm idOf desk).append_left _
  have hnodup := List.nodup_append.1 hbalanced.ids_nodup
  refine ⟨hsize, ?_, ?_, hperm.nodup_iff.1 hbalanced.ids_nodup, ?_, ?_, ?_,
    hbalanced.idle_of_closed, ?_, ?_, hbalanced.shutdown_exact, hbalanced.status_exact⟩
  · have hlength := (occupied_perm idOf desk).length_eq
    rw [List.length_append, List.length_map] at hlength
    rw [hbalanced.created_eq, hlength, Nat.add_assoc]
  · exact hsize ▸ hbalanced.created_le
  · intro id hid
    exact hbalanced.ids_lt id (hperm.mem_iff.2 hid)
  · intro caller other context otherContext hphase hother hsame
    exact caller_eq_of_nodup hnodup.2.1 hphase hother rfl (congrArg some hsame.symm)
  · intro caller context hphase hidle
    exact hnodup.2.2 _ hidle _ (mem_occupied_of_phase? hphase rfl) rfl
  · intro caller id hphase
    have hpos := created_pos_of_phase? hbalanced hphase rfl
    exact Nat.sub_add_cancel hpos
  · intro caller context hphase hclosed
    have hpos := created_pos_of_phase? hbalanced hphase rfl
    simp only [Pool.release, hclosed, if_true]
    exact Nat.sub_add_cancel hpos

/-- No two contexts have the same number. -/
theorem nodup_contexts {desk : Desk Context}
    (hbalanced : Balanced idOf desk.pool (desk.occupied idOf)) :
    (desk.contexts.map idOf).Nodup := by
  have hnodup := (accounted_of_balanced rfl hbalanced).ids_nodup
  rw [contexts, List.map_append]
  exact (List.nodup_append.1 hnodup).1

/-- The books are right in every state, for every size of the pool, any number of
callers and every order of their actions. -/
theorem accounted_of_reachable (idOf : Context → Nat) (size : Nat) {desk : Desk Context}
    (hreach : Reachable idOf size desk) : Accounted idOf size desk := by
  obtain ⟨hsize, hbalanced⟩ := balanced_of_reachable hreach
  exact accounted_of_balanced hsize hbalanced

/-- A pool for two contexts is closed while one caller holds a context and another one
is making one, and the first caller has given its context back since. -/
theorem accounted_of_late_release :
    ∃ desk : Desk Nat, Reachable id 2 desk ∧ desk.pool.closed = true ∧
      desk.pool.created = 1 ∧ desk.reserved = [1] ∧ Accounted id 2 desk := by
  have hreach : Reachable id 2 _ :=
    (((((((Relation.ReflTransGen.refl.tail
      (.act (.arrive 0 1000) rfl trivial)).tail
      (.act (.look 0) rfl trivial)).tail
      (.act (.build 0 (.ok 0)) rfl rfl)).tail
      (.act (.arrive 0 1000) rfl trivial)).tail
      (.act (.look 1) rfl trivial)).tail
      (.act .shutdown rfl trivial)).tail
      (.act (.release 0) rfl trivial))
  exact ⟨_, hreach, rfl, rfl, rfl, accounted_of_reachable id 2 hreach⟩

end Desk

end ServerRender.Pool
