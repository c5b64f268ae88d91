import Mathlib.Data.Finset.Card
import Mathlib.Data.Finset.Range
import Mathlib.Logic.Relation
import ServerRender.Proofs.Pool.Shutdown

/-!
# Waiting at a pool

A caller who finds the pool full parks.  A slot that becomes free later is announced by
a notice, which travels on its own: until it has reached somebody, newcomers may take the
slot, and the caller whom it reaches may be too late and park again.  This file counts
the slots that are free against the notices under way and the callers whom one of them
has woken, and says what is true of the pool when a caller is told that it is exhausted.
-/

namespace ServerRender.Pool

variable {Context : Type}

/-- The contexts that can be had at once: those that are idle, and those for which there
is still room. -/
def free (pool : Pool Context) : Nat :=
  pool.idle.length + (pool.size - pool.created)

theorem free_eq_zero {pool : Pool Context} (hidle : pool.idle = [])
    (hfull : pool.size ≤ pool.created) : pool.free = 0 := by
  simp [free, hidle, hfull]

theorem free_of_taken {pool : Pool Context} {context : Context} {rest : List Context}
    (hidle : pool.idle = context :: rest) :
    ({ pool with idle := rest } : Pool Context).free + 1 = pool.free := by
  simp only [free, hidle, List.length_cons]
  omega

theorem free_of_reserved {pool : Pool Context} (hroom : pool.created < pool.size)
    (nextId : Nat) :
    ({ pool with created := pool.created + 1, nextId } : Pool Context).free + 1 =
      pool.free := by
  simp only [free]
  omega

theorem free_cancel_le (pool : Pool Context) : pool.cancel.free ≤ pool.free + 1 := by
  simp only [free, cancel]
  omega

theorem free_release_of_open {pool : Pool Context} (hopen : pool.closed = false)
    (context : Context) : (pool.release context).1.free = pool.free + 1 := by
  simp only [release_of_open hopen, free, List.length_cons]
  omega

def Phase.isLooking : Phase Context → Bool
  | .looking => true
  | _ => false

/-- The phase of a caller that is parked, or was so until its time was up. -/
def Phase.IsUnwoken : Phase Context → Prop
  | .parked => True
  | .timedOut => True
  | _ => False

namespace Desk

variable {desk next : Desk Context} {action : Action Context} {caller : Nat}
variable {phase : Phase Context}

@[simp]
theorem notices_setPhase (desk : Desk Context) (caller : Nat) (phase : Phase Context) :
    (desk.setPhase caller phase).notices = desk.notices := rfl

private theorem phase?_setPhase_of_looking {moved : Nat} {before : Phase Context}
    (after : Phase Context) (hmoved : desk.phase? moved = some before)
    (hbefore : before.isLooking = false) (hphase : desk.phase? caller = some .looking) :
    (desk.setPhase moved after).phase? caller = some .looking := by
  have hne : moved ≠ caller := by
    rintro rfl
    obtain rfl := Option.some.inj (hmoved.symm.trans hphase)
    contradiction
  rwa [phase?_setPhase_of_ne hne]

/-- Only the caller's own look ends a phase of looking. -/
theorem looking_of_move (hmove : Move desk action next)
    (hphase : desk.phase? caller = some .looking) (hlook : action ≠ .look caller) :
    next.phase? caller = some .looking := by
  have hothers : ∀ {moved : Nat} (after : Phase Context), action = .look moved →
      (desk.setPhase moved after).phase? caller = some .looking := by
    rintro moved after rfl
    have hne : moved ≠ caller := fun hsame => hlook (congrArg Action.look hsame)
    rwa [phase?_setPhase_of_ne hne]
  cases hmove with
  | arrive time millis => exact phase?_arrive time millis hphase
  | turnAway hlooks hclosed => exact hothers _ rfl
  | take hlooks hopen hidle => exact hothers _ rfl
  | reserve hmoved hopen hidle hroom => exact hothers _ rfl
  | park hmoved hopen hidle hfull => exact hothers _ rfl
  | giveUp hcaller hopen hidle => exact hothers _ rfl
  | made hmoved => exact phase?_setPhase_of_looking _ hmoved rfl hphase
  | failed hmoved => exact phase?_setPhase_of_looking _ hmoved rfl hphase
  | drop hnotices hparked => exact hphase
  | notify hnotices hmoved => exact phase?_setPhase_of_looking _ hmoved rfl hphase
  | announce hclosing =>
      obtain ⟨entry, hentry, hentryPhase⟩ := phase?_eq_some_iff.1 hphase
      simp [phase?, hentry, hentryPhase, Phase.woken]
  | expire hmoved => exact phase?_setPhase_of_looking _ hmoved rfl hphase
  | wake hmoved => exact phase?_setPhase_of_looking _ hmoved rfl hphase
  | release hmoved => exact phase?_setPhase_of_looking _ hmoved rfl hphase
  | shutdown => exact hphase

private theorem isUnwoken_of_setPhase {moved : Nat} {after : Phase Context}
    (hafter : ¬ after.IsUnwoken) (hphase : (desk.setPhase moved after).phase? caller = some phase)
    (hunwoken : phase.IsUnwoken) : desk.phase? caller = some phase := by
  rcases phase?_setPhase_cases hphase with ⟨-, rfl⟩ | hbefore
  · exact absurd hunwoken hafter
  · exact hbefore

/-- A caller parks by its own look, and its time runs out only while it is parked. -/
theorem unwoken_of_move (hmove : Move desk action next)
    (hphase : next.phase? caller = some phase) (hunwoken : phase.IsUnwoken) :
    (action = .look caller ∧ phase = .parked) ∨
      desk.phase? caller = some .parked ∨ desk.phase? caller = some phase := by
  cases hmove with
  | arrive time millis =>
      rcases phase?_arrive_cases hphase with rfl | hbefore
      · exact hunwoken.elim
      · exact .inr (.inr hbefore)
  | turnAway hlooks hclosed => exact .inr (.inr (isUnwoken_of_setPhase id hphase hunwoken))
  | take hlooks hopen hidle => exact .inr (.inr (isUnwoken_of_setPhase id hphase hunwoken))
  | reserve hmoved hopen hidle hroom =>
      exact .inr (.inr (isUnwoken_of_setPhase id hphase hunwoken))
  | park hmoved hopen hidle hfull =>
      rcases phase?_setPhase_cases hphase with ⟨rfl, hparked⟩ | hbefore
      · exact .inl ⟨rfl, hparked⟩
      · exact .inr (.inr hbefore)
  | giveUp hcaller hopen hidle =>
      exact .inr (.inr (isUnwoken_of_setPhase id hphase hunwoken))
  | made hmoved => exact .inr (.inr (isUnwoken_of_setPhase id hphase hunwoken))
  | failed hmoved => exact .inr (.inr (isUnwoken_of_setPhase id hphase hunwoken))
  | drop hnotices hparked => exact .inr (.inr hphase)
  | notify hnotices hmoved => exact .inr (.inr (isUnwoken_of_setPhase id hphase hunwoken))
  | announce hclosing =>
      obtain ⟨before, hbefore, rfl⟩ := phase?_announce_cases hphase
      cases before with
      | parked => exact .inr (.inl hbefore)
      | _ => exact .inr (.inr hbefore)
  | expire hmoved =>
      rcases phase?_setPhase_cases hphase with ⟨rfl, -⟩ | hbefore
      · exact .inr (.inl hmoved)
      · exact .inr (.inr hbefore)
  | wake hmoved => exact .inr (.inr (isUnwoken_of_setPhase id hphase hunwoken))
  | release hmoved => exact .inr (.inr (isUnwoken_of_setPhase id hphase hunwoken))
  | shutdown => exact .inr (.inr hphase)

theorem eq_of_setPhase {before after : Phase Context} (hbefore : desk.phase? caller = some before)
    (hafter : (desk.setPhase caller after).phase? caller = some phase) : after = phase :=
  Option.some.inj ((phase?_setPhase_self hbefore).symm.trans hafter)

/-- A look that makes a caller park has found the pool full and open. -/
theorem full_of_parks (hmove : Move desk (.look caller) next)
    (hphase : next.phase? caller = some .parked) :
    next = desk.setPhase caller .parked ∧ desk.pool.idle = [] ∧
      desk.pool.size ≤ desk.pool.created := by
  cases hmove with
  | turnAway hlooks hclosed =>
      rcases hlooks with hbefore | hbefore <;> exact nomatch eq_of_setPhase hbefore hphase
  | take hlooks hopen hidle =>
      rcases hlooks with hbefore | hbefore <;> exact nomatch eq_of_setPhase hbefore hphase
  | reserve hbefore hopen hidle hroom => exact nomatch eq_of_setPhase hbefore hphase
  | park hbefore hopen hidle hfull => exact ⟨rfl, hidle, hfull⟩
  | giveUp hcaller hopen hidle =>
      exact nomatch eq_of_setPhase (phase?_eq_some_iff.2 ⟨_, hcaller, rfl⟩) hphase

theorem mem_parked : caller ∈ desk.parked ↔ desk.phase? caller = some .parked := by
  rw [parked, List.mem_filter, List.mem_range]
  constructor
  · rintro ⟨-, hparked⟩
    obtain ⟨phase, hphase, hisParked⟩ := (Option.any_eq_true _ _).1 hparked
    cases phase with
    | parked => exact hphase
    | _ => contradiction
  · intro hphase
    exact ⟨phase?_lt hphase, by simp [hphase, Phase.isParked]⟩

@[simp]
theorem pool_updateHeld (desk : Desk Context) (caller : Nat) (context : Context) :
    (desk.updateHeld caller context).pool = desk.pool := by
  simp only [updateHeld]
  split <;> rfl

@[simp]
theorem notices_updateHeld (desk : Desk Context) (caller : Nat) (context : Context) :
    (desk.updateHeld caller context).notices = desk.notices := by
  simp only [updateHeld]
  split <;> rfl

/-- Work on a context leaves a desk as it is for those who have none. -/
theorem phase?_updateHeld_iff (hcontext : phase.context? = none) (worker : Nat)
    (worked : Context) :
    (desk.updateHeld worker worked).phase? caller = some phase ↔
      desk.phase? caller = some phase := by
  simp only [updateHeld]
  split
  · next held hheld =>
      by_cases hworker : worker = caller
      · subst hworker
        rw [phase?_setPhase_self hheld, hheld]
        have hne : ∀ context, phase ≠ .holding context := by
          rintro context rfl
          contradiction
        simp [(hne _).symm]
      · rw [phase?_setPhase_of_ne hworker]
  · exact Iff.rfl

/-- A move at an open pool has found it open. -/
theorem open_of_move (hmove : Move desk action next) (hopen : next.pool.closed = false) :
    desk.pool.closed = false := by
  cases hclosed : desk.pool.closed with
  | false => rfl
  | true => exact absurd (closed_of_move hmove hclosed) (by simp [hopen])

/-- Where a context can be had, a look gets one, or room to make one. -/
theorem exists_look_of_free (hopen : desk.pool.closed = false) (hfree : 0 < desk.pool.free)
    (hphase : desk.phase? caller = some .looking) :
    ∃ (next : Desk Context) (events : List Log.Event),
      desk.step (.look caller) = some (next, events) ∧
        ((∃ context, next.phase? caller = some (.holding context)) ∨
          ∃ id, next.phase? caller = some (.building id)) := by
  obtain ⟨⟨millis, deadline, _⟩, hentry, rfl⟩ := phase?_eq_some_iff.1 hphase
  have hstep : desk.step (.look caller) =
      some (desk.lookStep caller millis false desk.pool.look) := by
    simp [step, hentry]
  cases hidle : desk.pool.idle with
  | cons context rest =>
      rw [look_of_idle hopen hidle] at hstep
      exact ⟨_, _, hstep, .inl ⟨context, phase?_setPhase_self hphase⟩⟩
  | nil =>
      have hroom : desk.pool.created < desk.pool.size := by
        simp only [free, hidle, List.length_nil] at hfree
        omega
      rw [look_of_room hopen hidle hroom] at hstep
      exact ⟨_, _, hstep, .inr ⟨_, phase?_setPhase_self hphase⟩⟩

end Desk

/-! ## Watches -/

/-- The caller whom the action that has led to a desk has made park. -/
def Desk.newlyParked? (desk : Desk Context) : Action Context → Option Nat
  | .look caller =>
    match desk.phase? caller with
    | some .parked => some caller
    | _ => none
  | _ => none

theorem Desk.newlyParked?_eq_some_iff {desk : Desk Context} {action : Action Context}
    {caller : Nat} :
    desk.newlyParked? action = some caller ↔
      action = .look caller ∧ desk.phase? caller = some .parked := by
  constructor
  · intro hparked
    cases action with
    | look looker =>
        simp only [newlyParked?] at hparked
        split at hparked
        · next hphase =>
            obtain rfl := Option.some.inj hparked
            exact ⟨rfl, hphase⟩
        · contradiction
    | _ => contradiction
  · rintro ⟨rfl, hphase⟩
    simp [newlyParked?, hphase]

/-- A desk, and a record of how its callers have parked.  Nothing that happens at the desk
depends on the record. -/
structure Watch (Context : Type) where
  desk : Desk Context
  /-- How many attempts to make a context have failed. -/
  failures : Nat
  /-- For each caller that has parked, how many attempts had failed when it last did. -/
  parkedAt : Nat → Option Nat

namespace Watch

def create (size : Nat) : Watch Context :=
  ⟨.create size, 0, fun _ => none⟩

def note (watch : Watch Context) (action : Action Context) (next : Desk Context) :
    Watch Context where
  desk := next
  failures := match action with
    | .build _ (.error _) => watch.failures + 1
    | _ => watch.failures
  parkedAt caller :=
    if next.newlyParked? action = some caller then some watch.failures
    else watch.parkedAt caller

inductive Turn (watch : Watch Context) : Watch Context → Prop
  | act (action : Action Context) {next : Desk Context} {events : List Log.Event}
      (hstep : watch.desk.step action = some (next, events)) :
      Turn watch (watch.note action next)
  | work (caller : Nat) (worked : Context) :
      Turn watch { watch with desk := watch.desk.updateHeld caller worked }

def Reachable (size : Nat) : Watch Context → Prop :=
  Relation.ReflTransGen Turn (create size)

/-- Whether a caller has parked, has been woken in time and has not looked since. -/
def isWoken (watch : Watch Context) (caller : Nat) : Bool :=
  (watch.desk.phase? caller).any Phase.isLooking && (watch.parkedAt caller).isSome

def woken (watch : Watch Context) : Finset Nat :=
  (Finset.range watch.desk.callers.length).filter fun caller => watch.isWoken caller

variable {watch : Watch Context} {next : Desk Context} {action : Action Context}
variable {caller since : Nat}

theorem isWoken_iff :
    watch.isWoken caller = true ↔
      watch.desk.phase? caller = some .looking ∧ ∃ since, watch.parkedAt caller = some since := by
  have hlooking : (watch.desk.phase? caller).any Phase.isLooking = true ↔
      watch.desk.phase? caller = some .looking := by
    rcases watch.desk.phase? caller with _ | phase
    · simp
    · cases phase <;> simp [Phase.isLooking]
  rw [isWoken, Bool.and_eq_true, hlooking, Option.isSome_iff_exists]

theorem mem_woken :
    caller ∈ watch.woken ↔
      watch.desk.phase? caller = some .looking ∧ ∃ since, watch.parkedAt caller = some since := by
  rw [woken, Finset.mem_filter, Finset.mem_range, isWoken_iff]
  exact ⟨And.right, fun hwoken => ⟨Desk.phase?_lt hwoken.1, hwoken⟩⟩

/-- A record of a caller is new only if it has just parked. -/
theorem parkedAt_note_cases (hsince : (watch.note action next).parkedAt caller = some since) :
    (action = .look caller ∧ next.phase? caller = some .parked ∧ since = watch.failures) ∨
      watch.parkedAt caller = some since := by
  simp only [note] at hsince
  split at hsince
  · next hparked =>
      obtain ⟨haction, hphase⟩ := Desk.newlyParked?_eq_some_iff.1 hparked
      exact .inl ⟨haction, hphase, (Option.some.inj hsince).symm⟩
  · exact .inr hsince

theorem exists_parkedAt_note (hsince : watch.parkedAt caller = some since) :
    ∃ later, (watch.note action next).parkedAt caller = some later := by
  simp only [note]
  split
  · exact ⟨_, rfl⟩
  · exact ⟨_, hsince⟩

theorem parkedAt_note_of_parks (hparked : next.phase? caller = some .parked) :
    (watch.note (.look caller) next).parkedAt caller = some watch.failures := by
  simp [note, Desk.newlyParked?_eq_some_iff.2 ⟨rfl, hparked⟩]

/-- Nothing but a failed attempt to make a context takes one off the count of an open
pool. -/
theorem created_add_failures_le_of_move (hmove : Desk.Move watch.desk action next)
    (hopen : next.pool.closed = false) :
    watch.desk.pool.created + watch.failures ≤
      next.pool.created + (watch.note action next).failures := by
  have hbefore := Desk.open_of_move hmove hopen
  cases hmove with
  | failed hphase =>
      simp only [note, Desk.pool_setPhase, cancel]
      omega
  | reserve hphase hopen hidle hroom =>
      simp only [note, Desk.pool_setPhase]
      omega
  | release hphase => simp [note, Pool.release, hbefore]
  | shutdown => simp [Desk.shutdown, Pool.shutdown, hbefore] at hopen
  | _ => exact Nat.le_refl _

/-- Who is parked, or was until its time was up, has a record; and every slot of an open
pool that has come free since a caller parked was given up by an attempt that failed. -/
structure Recorded (watch : Watch Context) : Prop where
  exists_parkedAt : ∀ {caller : Nat} {phase : Phase Context},
    watch.desk.phase? caller = some phase → phase.IsUnwoken →
    ∃ since, watch.parkedAt caller = some since
  created_le : watch.desk.pool.created ≤ watch.desk.pool.size
  size_add_le : ∀ {caller since : Nat}, watch.desk.pool.closed = false →
    watch.parkedAt caller = some since →
    watch.desk.pool.size + since ≤ watch.desk.pool.created + watch.failures

theorem created_le_of_move {desk next : Desk Context} {action : Action Context}
    (hmove : Desk.Move desk action next) (hle : desk.pool.created ≤ desk.pool.size) :
    next.pool.created ≤ next.pool.size := by
  cases hmove with
  | failed hphase =>
      simp only [Desk.pool_setPhase, cancel]
      omega
  | reserve hphase hopen hidle hroom => exact hroom
  | @release caller context hphase =>
      cases hclosed : desk.pool.closed <;> simp [Pool.release, hclosed] <;> omega
  | shutdown =>
      cases hclosed : desk.pool.closed <;> simp [Desk.shutdown, Pool.shutdown, hclosed] <;> omega
  | _ => exact hle

theorem recorded_of_move (hmove : Desk.Move watch.desk action next)
    (hrecorded : watch.Recorded) : (watch.note action next).Recorded := by
  refine ⟨?_, created_le_of_move hmove hrecorded.created_le, ?_⟩
  · intro caller phase hphase hunwoken
    rcases Desk.unwoken_of_move hmove hphase hunwoken with ⟨rfl, rfl⟩ | hbefore | hbefore
    · exact ⟨_, parkedAt_note_of_parks hphase⟩
    · obtain ⟨since, hsince⟩ := hrecorded.exists_parkedAt hbefore trivial
      exact exists_parkedAt_note hsince
    · obtain ⟨since, hsince⟩ := hrecorded.exists_parkedAt hbefore hunwoken
      exact exists_parkedAt_note hsince
  · intro caller since hopen hsince
    have hcount := created_add_failures_le_of_move hmove hopen
    have hsize : (watch.note action next).desk.pool.size = watch.desk.pool.size :=
      Desk.size_of_move hmove
    rcases parkedAt_note_cases hsince with ⟨rfl, hparked, rfl⟩ | hbefore
    · obtain ⟨-, -, hfull⟩ := Desk.full_of_parks hmove hparked
      exact hsize ▸ (Nat.add_le_add_right hfull _).trans hcount
    · have hkept := hrecorded.size_add_le (Desk.open_of_move hmove hopen) hbefore
      exact hsize ▸ hkept.trans hcount

/-! ## Free slots and those who come for them -/

theorem mem_woken_of_move (hmove : Desk.Move watch.desk action next)
    (hmem : caller ∈ watch.woken) (hlook : action ≠ .look caller) :
    caller ∈ (watch.note action next).woken := by
  obtain ⟨hphase, since, hsince⟩ := mem_woken.1 hmem
  exact mem_woken.2 ⟨Desk.looking_of_move hmove hphase hlook, exists_parkedAt_note hsince⟩

theorem card_woken_le_of_move (hmove : Desk.Move watch.desk action next)
    (hlook : ∀ looker ∈ watch.woken, action ≠ .look looker) :
    watch.woken.card ≤ (watch.note action next).woken.card :=
  Finset.card_le_card fun caller hmem => mem_woken_of_move hmove hmem (hlook caller hmem)

/-- A look takes at most the caller who looks out of those who are woken. -/
theorem card_woken_le_of_look (hmove : Desk.Move watch.desk (.look caller) next) :
    watch.woken.card ≤ (watch.note (.look caller) next).woken.card + 1 := by
  have hsubset : watch.woken ⊆ insert caller (watch.note (.look caller) next).woken := by
    intro other hmem
    by_cases hother : caller = other
    · exact Finset.mem_insert.2 (.inl hother.symm)
    · refine Finset.mem_insert_of_mem (mem_woken_of_move hmove hmem fun hlook => ?_)
      exact hother (Action.look.inj hlook)
  exact (Finset.card_le_card hsubset).trans (Finset.card_insert_le _ _)

/-- A caller that is woken is one more of those who are woken. -/
theorem card_woken_lt_of_move (hrecorded : watch.Recorded)
    (hmove : Desk.Move watch.desk action next) (hlook : ∀ looker, action ≠ .look looker)
    (hbefore : watch.desk.phase? caller = some .parked)
    (hafter : next.phase? caller = some .looking) :
    watch.woken.card < (watch.note action next).woken.card := by
  have hnew : caller ∉ watch.woken := fun hmem =>
    nomatch hbefore.symm.trans (mem_woken.1 hmem).1
  obtain ⟨since, hsince⟩ := hrecorded.exists_parkedAt hbefore trivial
  rw [Nat.lt_iff_add_one_le, ← Finset.card_insert_of_notMem hnew]
  refine Finset.card_le_card fun other hmem => ?_
  rcases Finset.mem_insert.1 hmem with rfl | hmem
  · exact mem_woken.2 ⟨hafter, exists_parkedAt_note hsince⟩
  · exact mem_woken_of_move hmove hmem (hlook other)

/-- As long as somebody stays parked, every slot that comes free is announced, and every
notice under way reaches a caller who will look for the slot. -/
theorem free_le_of_move {waiter : Nat} (hrecorded : watch.Recorded)
    (hmove : Desk.Move watch.desk action next) (hopen : next.pool.closed = false)
    (hparked : watch.desk.phase? waiter = some .parked)
    (hle : watch.desk.pool.free ≤ watch.desk.notices + watch.woken.card) :
    next.pool.free ≤ next.notices + (watch.note action next).woken.card := by
  have hbefore := Desk.open_of_move hmove hopen
  have hquiet : (∀ looker ∈ watch.woken, action ≠ .look looker) →
      watch.woken.card ≤ (watch.note action next).woken.card := card_woken_le_of_move hmove
  have hlooked : ∀ looker, action = .look looker →
      watch.woken.card ≤ (watch.note action next).woken.card + 1 := by
    rintro looker rfl
    exact card_woken_le_of_look hmove
  have hwoken : ∀ caller, (∀ looker, action ≠ .look looker) →
      watch.desk.phase? caller = some .parked → next.phase? caller = some .looking →
      watch.woken.card < (watch.note action next).woken.card := fun caller =>
    card_woken_lt_of_move hrecorded hmove
  generalize (watch.note action next).woken.card = after at hquiet hlooked hwoken ⊢
  cases hmove with
  | arrive time millis =>
      exact hle.trans (Nat.add_le_add_left (hquiet fun _ _ h => nomatch h) _)
  | turnAway hlooks hclosed => exact absurd hclosed (by simp [hbefore])
  | take hlooks hopen hidle =>
      have hcard := hlooked _ rfl
      have hfree := free_of_taken hidle
      simp only [Desk.pool_setPhase, Desk.notices_setPhase]
      omega
  | reserve hphase hopen hidle hroom =>
      have hcard := hlooked _ rfl
      have hfree := free_of_reserved hroom (watch.desk.pool.nextId + 1)
      simp only [Desk.pool_setPhase, Desk.notices_setPhase]
      omega
  | park hphase hopen hidle hfull =>
      rw [Desk.pool_setPhase, free_eq_zero hidle hfull]
      exact Nat.zero_le _
  | giveUp hcaller hopen hidle =>
      refine hle.trans (Nat.add_le_add_left (hquiet fun looker hmem hlook => ?_) _)
      obtain rfl := Action.look.inj hlook
      exact nomatch (Desk.phase?_eq_some_iff.2 ⟨_, hcaller, rfl⟩).symm.trans (mem_woken.1 hmem).1
  | made hphase => exact hle.trans (Nat.add_le_add_left (hquiet fun _ _ h => nomatch h) _)
  | failed hphase =>
      have hcard := hquiet fun _ _ h => nomatch h
      have hfree := free_cancel_le watch.desk.pool
      simp only [Desk.pool_setPhase, Desk.notices_setPhase]
      omega
  | drop hnotices hnobody =>
      have hmem : waiter ∈ watch.desk.parked := Desk.mem_parked.2 hparked
      simp [hnobody] at hmem
  | notify hnotices hphase =>
      have hcard := hwoken _ (fun _ h => nomatch h) hphase (Desk.phase?_setPhase_self hphase)
      simp only [Desk.pool_setPhase, Desk.notices_setPhase]
      omega
  | announce hclosing =>
      exact hle.trans (Nat.add_le_add_left (hquiet fun _ _ h => nomatch h) _)
  | expire hphase => exact hle.trans (Nat.add_le_add_left (hquiet fun _ _ h => nomatch h) _)
  | wake hphase => exact hle.trans (Nat.add_le_add_left (hquiet fun _ _ h => nomatch h) _)
  | @release releaser context hphase =>
      have hcard := hquiet fun _ _ h => nomatch h
      have hfree := free_release_of_open hbefore context
      have hannounced : (watch.desk.pool.release context).2 = false := by
        rw [release_of_open hbefore]
      simp only [Desk.pool_setPhase, Desk.notices_setPhase, hannounced, Bool.false_eq_true,
        if_false]
      omega
  | shutdown => simp [Desk.shutdown, Pool.shutdown, hbefore] at hopen

/-- What always holds at a watch: the records are right, and whoever is parked at an open
pool has somebody under way for every slot that is free. -/
structure Sound (watch : Watch Context) : Prop where
  recorded : watch.Recorded
  free_le : ∀ {waiter : Nat}, watch.desk.pool.closed = false →
    watch.desk.phase? waiter = some .parked →
    watch.desk.pool.free ≤ watch.desk.notices + watch.woken.card

theorem sound_of_move (hmove : Desk.Move watch.desk action next) (hsound : watch.Sound) :
    (watch.note action next).Sound := by
  refine ⟨recorded_of_move hmove hsound.recorded, ?_⟩
  intro waiter hopen hparked
  have hbefore : action = .look waiter ∨ watch.desk.phase? waiter = some .parked := by
    rcases Desk.unwoken_of_move hmove hparked trivial with ⟨hlook, -⟩ | hbefore | hbefore
    · exact .inl hlook
    · exact .inr hbefore
    · exact .inr hbefore
  rcases hbefore with rfl | hbefore
  · obtain ⟨rfl, hidle, hfull⟩ := Desk.full_of_parks hmove hparked
    exact (free_eq_zero hidle hfull).trans_le (Nat.zero_le _)
  · exact free_le_of_move hsound.recorded hmove hopen hbefore
      (hsound.free_le (Desk.open_of_move hmove hopen) hbefore)

/-- Work on a context changes nothing for those who wait. -/
theorem sound_of_work (hsound : watch.Sound) (worker : Nat) (worked : Context) :
    Sound { watch with desk := watch.desk.updateHeld worker worked } := by
  have hwoken : woken { watch with desk := watch.desk.updateHeld worker worked } =
      watch.woken := by
    ext other
    rw [mem_woken, mem_woken, Desk.phase?_updateHeld_iff rfl]
  refine ⟨⟨?_, ?_, ?_⟩, ?_⟩
  · intro caller phase hphase hunwoken
    have hcontext : phase.context? = none := by
      cases phase with
      | holding context => exact hunwoken.elim
      | _ => rfl
    exact hsound.recorded.exists_parkedAt ((Desk.phase?_updateHeld_iff hcontext _ _).1 hphase)
      hunwoken
  · simpa using hsound.recorded.created_le
  · intro caller since hopen hsince
    simpa using hsound.recorded.size_add_le (by simpa using hopen) hsince
  · intro waiter hopen hparked
    rw [hwoken]
    simpa using hsound.free_le (by simpa using hopen)
      ((Desk.phase?_updateHeld_iff rfl _ _).1 hparked)

theorem sound_of_reachable {size : Nat} (hreach : Reachable size watch) : watch.Sound := by
  induction hreach with
  | refl =>
      have hnobody : ∀ caller, (create size : Watch Context).desk.phase? caller = none :=
        fun _ => rfl
      refine ⟨⟨?_, Nat.zero_le _, fun _ hsince => nomatch hsince⟩, ?_⟩
      · intro caller phase hphase
        exact nomatch (hnobody caller).symm.trans hphase
      · intro waiter hopen hparked
        exact nomatch (hnobody waiter).symm.trans hparked
  | tail _ hturn ih =>
      cases hturn with
      | act action hstep => exact sound_of_move (Desk.move_of_step hstep) ih
      | work caller worked => exact sound_of_work ih caller worked

/-- Somebody is on the way to every free slot while a caller is parked. -/
structure Attended (watch : Watch Context) (waiter : Nat) : Prop where
  /-- A slot that is free has been announced, or a woken caller is about to look for it. -/
  free_le : watch.desk.pool.free ≤ watch.desk.notices + watch.woken.card
  /-- If there is one, the next notice wakes the caller, or somebody else gets the slot. -/
  helped : 0 < watch.desk.pool.free →
    (∃ next, watch.desk.step (.notify (some waiter)) = some (next, []) ∧
      next.phase? waiter = some .looking) ∨
    ∃ other ∈ watch.woken, ∃ (next : Desk Context) (events : List Log.Event),
      watch.desk.step (.look other) = some (next, events) ∧
        ((∃ context, next.phase? other = some (.holding context)) ∨
          ∃ id, next.phase? other = some (.building id))

theorem exists_notify {desk : Desk Context} {waiter : Nat} (hnotices : 0 < desk.notices)
    (hparked : desk.phase? waiter = some .parked) :
    ∃ next, desk.step (.notify (some waiter)) = some (next, []) ∧
      next.phase? waiter = some .looking := by
  obtain ⟨notices, hnotices⟩ := Nat.exists_eq_add_of_lt hnotices
  rw [Nat.zero_add] at hnotices
  have hstill : ({ desk with notices } : Desk Context).phase? waiter = some .parked := hparked
  refine ⟨({ desk with notices } : Desk Context).setPhase waiter .looking, ?_,
    Desk.phase?_setPhase_self hstill⟩
  simp only [Desk.step, hnotices, hparked]

/-- While somebody is parked at an open pool, no slot is free without a notice or a woken
caller for it, whoever has come meanwhile and in whatever order all have acted. -/
theorem attended_of_parked (size : Nat) {waiter : Nat} (hreach : Reachable size watch)
    (hopen : watch.desk.pool.closed = false)
    (hparked : watch.desk.phase? waiter = some .parked) : watch.Attended waiter := by
  have hle := (sound_of_reachable hreach).free_le hopen hparked
  refine ⟨hle, fun hfree => ?_⟩
  by_cases hnotices : 0 < watch.desk.notices
  · exact .inl (exists_notify hnotices hparked)
  · have hcard : 0 < watch.woken.card := by omega
    obtain ⟨other, hother⟩ := Finset.card_pos.1 hcard
    obtain ⟨next, events, hstep, hgets⟩ :=
      Desk.exists_look_of_free hopen hfree (mem_woken.1 hother).1
    exact .inr ⟨other, hother, next, events, hstep, hgets⟩

/-- Two callers are parked when the only context comes back.  The notice wakes the first
of them, who has not looked yet. -/
theorem attended_of_release :
    ∃ watch : Watch Nat, Reachable 1 watch ∧ watch.desk.pool.closed = false ∧
      watch.desk.phase? 2 = some .parked ∧ watch.desk.pool.free = 1 ∧
      watch.desk.notices = 0 ∧ watch.woken = {1} ∧ watch.Attended 2 := by
  have hreach : Reachable 1 _ :=
    (((((((((Relation.ReflTransGen.refl.tail
      (.act (.arrive 0 1000) rfl)).tail
      (.act (.arrive 0 1000) rfl)).tail
      (.act (.arrive 0 1000) rfl)).tail
      (.act (.look 0) rfl)).tail
      (.act (.build 0 (.ok 0)) rfl)).tail
      (.act (.look 1) rfl)).tail
      (.act (.look 2) rfl)).tail
      (.act (.release 0) rfl)).tail
      (.act (.notify (some 1)) rfl))
  exact ⟨_, hreach, rfl, rfl, rfl, rfl, rfl, attended_of_parked 1 hreach rfl rfl⟩

/-! ## The last look -/

/-- What the pool is like when a caller is told that it is exhausted.  It is open and no
context is idle, and each slot for which there is room was given up by an attempt to make
a context that has failed since the caller parked. -/
structure Exhausted (watch : Watch Context) (caller : Nat) : Prop where
  closed_eq : watch.desk.pool.closed = false
  idle_eq : watch.desk.pool.idle = []
  created_le : watch.desk.pool.created ≤ watch.desk.pool.size
  room_le : ∃ since, watch.parkedAt caller = some since ∧
    since + (watch.desk.pool.size - watch.desk.pool.created) ≤ watch.failures
  /-- The pool is full if no attempt has failed since. -/
  created_eq : watch.parkedAt caller = some watch.failures →
    watch.desk.pool.created = watch.desk.pool.size

end Watch

/-- A caller gives up at an open pool without an idle context, after its time was up. -/
theorem Desk.timedOut_of_refused {desk next : Desk Context} {caller millis : Nat}
    (hmove : Move desk (.look caller) next)
    (hrefused : next.phase? caller = some (.refused (.exhaustedAfter millis))) :
    desk.phase? caller = some .timedOut ∧ desk.pool.closed = false ∧ desk.pool.idle = [] := by
  cases hmove with
  | turnAway hlooks hclosed =>
      rcases hlooks with hbefore | hbefore <;> exact nomatch eq_of_setPhase hbefore hrefused
  | take hlooks hopen hidle =>
      rcases hlooks with hbefore | hbefore <;> exact nomatch eq_of_setPhase hbefore hrefused
  | reserve hbefore hopen hidle hroom => exact nomatch eq_of_setPhase hbefore hrefused
  | park hbefore hopen hidle hfull => exact nomatch eq_of_setPhase hbefore hrefused
  | giveUp hcaller hopen hidle =>
      exact ⟨phase?_eq_some_iff.2 ⟨_, hcaller, rfl⟩, hopen, hidle⟩

namespace Watch

variable {watch : Watch Context}

/-- Whatever the callers do and in whatever order, one who is told that the pool is
exhausted has found nothing idle, and no room but that of attempts that have failed while
it was waiting. -/
theorem exhausted_of_refused (size : Nat) {next : Desk Context} {caller millis : Nat}
    {events : List Log.Event} (hreach : Reachable size watch)
    (hstep : watch.desk.step (.look caller) = some (next, events))
    (hrefused : next.phase? caller = some (.refused (.exhaustedAfter millis))) :
    watch.Exhausted caller := by
  obtain ⟨hphase, hopen, hidle⟩ := Desk.timedOut_of_refused (Desk.move_of_step hstep) hrefused
  have hrecorded := (sound_of_reachable hreach).recorded
  obtain ⟨since, hsince⟩ := hrecorded.exists_parkedAt hphase trivial
  have hroom := hrecorded.size_add_le hopen hsince
  have hle := hrecorded.created_le
  refine ⟨hopen, hidle, hle, ⟨since, hsince, by omega⟩, fun hnow => ?_⟩
  obtain rfl := Option.some.inj (hsince.symm.trans hnow)
  omega

/-- The only context is being made when a caller parks.  Its time is up, and then the
attempt fails. -/
def lateFailure : Watch Nat where
  desk :=
    { pool := ⟨1, [], 0, 1, false⟩
      callers :=
        [⟨1000, 1000, .refused (.engineUnavailable "refused 0")⟩, ⟨20, 20, .timedOut⟩]
      notices := 1
      closing := false }
  failures := 1
  parkedAt caller := if some 1 = some caller then some 0 else none

theorem reachable_lateFailure : Reachable 1 lateFailure :=
  ((((((Relation.ReflTransGen.refl.tail
    (.act (.arrive 0 1000) rfl)).tail
    (.act (.arrive 0 20) rfl)).tail
    (.act (.look 0) rfl)).tail
    (.act (.look 1) rfl)).tail
    (.act (.expire 1) rfl)).tail
    (.act (.build 0 (.error (.engineUnavailable "refused 0"))) rfl))

/-- The caller is told that the pool is exhausted although nobody has the context or makes
it: the attempt that has failed while it was waiting accounts for the room. -/
theorem exhausted_of_lateFailure :
    ∃ (next : Desk Nat) (events : List Log.Event), Reachable 1 lateFailure ∧
      lateFailure.desk.step (.look 1) = some (next, events) ∧
      next.phase? 1 = some (.refused (.exhaustedAfter 20)) ∧ lateFailure.Exhausted 1 :=
  ⟨_, _, reachable_lateFailure, rfl, rfl,
    exhausted_of_refused 1 reachable_lateFailure rfl rfl⟩

/-- A pool that is not full reports that it is exhausted. -/
theorem not_forall_full :
    ¬ ∀ (size caller millis : Nat) (watch : Watch Nat) (next : Desk Nat)
        (events : List Log.Event), Reachable size watch →
      watch.desk.step (.look caller) = some (next, events) →
      next.phase? caller = some (.refused (.exhaustedAfter millis)) →
      watch.desk.pool.idle = [] ∧ watch.desk.pool.created = size := by
  intro hfull
  have hcreated := (hfull 1 1 20 lateFailure _ _ reachable_lateFailure rfl rfl).2
  exact nomatch hcreated

end Watch

end ServerRender.Pool
