import ServerRender.Pool.Schedule
import ServerRender.Proofs.Pool.Waiting

/-!
# Pools that settle

A pool serves its callers until nobody can go on of his own accord.  The schedule counts the
actions that it does and gives up after some number of them.  This file proves that the number
is large enough for every desk, also where contexts cannot be made: in the end all callers are
served, busy or parked, no notice is under way, and a shutdown has been announced.
-/

namespace ServerRender.Pool

variable {Context : Type}

/-- A bound on the urgent actions that follow from a phase.  A caller who is parked may be
woken, may get room for a context, and may fail to make it, which sends a notice. -/
def Phase.pending : Phase Context → Nat
  | .looking => 5
  | .timedOut => 5
  | .parked => 4
  | .building _ => 3
  | _ => 0

theorem Phase.pending_le (phase : Phase Context) : phase.pending ≤ 5 := by
  cases phase <;> simp [pending]

theorem Phase.pending_woken_le (phase : Phase Context) :
    phase.woken.pending ≤ phase.pending + 1 := by
  cases phase <;> simp [pending, woken]

namespace Desk

variable {factory : Factory Context} {desk next : Desk Context} {action : Action Context}
variable {caller : Nat}

def pending (desk : Desk Context) : Nat :=
  (desk.callers.map fun caller => caller.phase.pending).sum + 2 * desk.notices +
    if desk.closing then desk.callers.length + 1 else 0

/-- The actions that do not have to wait for anything. -/
inductive Urgent (factory : Factory Context) (desk : Desk Context) : Action Context → Prop
  | look {caller : Nat} (hlooks : desk.Looks caller) : Urgent factory desk (.look caller)
  | build {caller id : Nat} (hphase : desk.phase? caller = some (.building id)) :
      Urgent factory desk (.build caller (factory id))
  | announce (hclosing : desk.closing = true) : Urgent factory desk .announce
  | notify {target : Option Nat} (hnotices : desk.notices ≠ 0)
      (htarget : desk.parked.head? = target) : Urgent factory desk (.notify target)

theorem urgent_of_urgent? (hurgent : desk.urgent? factory = some action) :
    desk.Urgent factory action := by
  simp only [urgent?] at hurgent
  split at hurgent
  · next own hown =>
      obtain rfl := Option.some.inj hurgent
      obtain ⟨caller, -, hcaller⟩ := List.exists_of_findSome?_eq_some hown
      obtain ⟨phase, hphase, haction⟩ := Option.bind_eq_some_iff.1 hcaller
      cases phase with
      | looking =>
          obtain rfl := Option.some.inj haction
          exact .look (.inl hphase)
      | timedOut =>
          obtain rfl := Option.some.inj haction
          exact .look (.inr hphase)
      | building id =>
          obtain rfl := Option.some.inj haction
          exact .build hphase
      | _ => contradiction
  · split at hurgent
    · next hclosing =>
        obtain rfl := Option.some.inj hurgent
        exact .announce hclosing
    · split at hurgent
      · contradiction
      · next hnotices =>
          obtain rfl := Option.some.inj hurgent
          exact .notify hnotices rfl

/-- What is urgent is possible. -/
theorem Urgent.exists_step (hurgent : desk.Urgent factory action) :
    ∃ next events, desk.step action = some (next, events) := by
  cases hurgent with
  | @look caller hlooks =>
      rcases hlooks with hphase | hphase <;>
        obtain ⟨⟨millis, deadline, _⟩, hcaller, rfl⟩ := phase?_eq_some_iff.1 hphase <;>
        exact ⟨_, _, by simp only [step, hcaller]; rfl⟩
  | @build caller id hphase =>
      cases hmade : factory id <;> exact ⟨_, _, by simp only [step, hphase]; rfl⟩
  | announce hclosing => exact ⟨_, _, by simp only [step, hclosing, if_true]; rfl⟩
  | @notify target hnotices htarget =>
      cases target with
      | none =>
          have hparked : desk.parked = [] := List.head?_eq_none_iff.1 htarget
          exact ⟨_, _, by simp only [step, hnotices, hparked]; rfl⟩
      | some waiter =>
          have hphase := mem_parked.1 (List.mem_of_head? htarget)
          obtain ⟨next, hstep, -⟩ := Watch.exists_notify (Nat.pos_of_ne_zero hnotices) hphase
          exact ⟨next, [], hstep⟩

theorem pending_setPhase {before : Phase Context} (hphase : desk.phase? caller = some before)
    (after : Phase Context) :
    (desk.setPhase caller after).pending + before.pending = desk.pending + after.pending := by
  obtain ⟨entry, hentry, rfl⟩ := phase?_eq_some_iff.1 hphase
  have hset := modify_of_getElem? hentry fun c => { c with phase := after }
  have hsum := sum_map_set hentry (fun c => c.phase.pending) { entry with phase := after }
  simp only [pending, setPhase, hset, List.length_set] at hsum ⊢
  omega

/-- An announcement wakes everybody at once, each for one more action. -/
theorem pending_announce_lt (hclosing : desk.closing = true) :
    pending { desk with
      closing := false
      callers := desk.callers.map fun c => { c with phase := c.phase.woken } } <
        desk.pending := by
  have hwoken : (desk.callers.map fun c => c.phase.woken.pending).sum ≤
      (desk.callers.map fun c => c.phase.pending + 1).sum :=
    List.sum_le_sum fun c _ => c.phase.pending_woken_le
  have hlength : (desk.callers.map fun c => c.phase.pending + 1).sum =
      (desk.callers.map fun c => c.phase.pending).sum + desk.callers.length := by
    simp [List.sum_map_add]
  simp only [pending, hclosing, List.map_map, Function.comp_def, Bool.false_eq_true, if_true,
    if_false]
  omega

theorem pending_lt_of_move (hurgent : desk.Urgent factory action)
    (hmove : Move desk action next) : next.pending < desk.pending := by
  have hlooked : ∀ {looker : Nat} (pool : Pool Context) (after : Phase Context),
      desk.Looks looker → after.pending ≤ 4 →
      ({ desk with pool }.setPhase looker after).pending < desk.pending := by
    intro looker pool after hlooks hafter
    obtain ⟨before, hphase, hweight⟩ : ∃ before, desk.phase? looker = some before ∧
        before.pending = 5 := by
      rcases hlooks with hphase | hphase <;> exact ⟨_, hphase, rfl⟩
    have hsame : ({ desk with pool } : Desk Context).phase? looker = some before := hphase
    have hpending := pending_setPhase hsame after
    have hdesk : ({ desk with pool } : Desk Context).pending = desk.pending := rfl
    omega
  cases hmove with
  | turnAway hlooks hclosed => exact hlooked desk.pool _ hlooks (by simp [Phase.pending])
  | take hlooks hopen hidle => exact hlooked _ _ hlooks (by simp [Phase.pending])
  | reserve hphase hopen hidle hroom =>
      exact hlooked _ _ (.inl hphase) (by simp [Phase.pending])
  | park hphase hopen hidle hfull => exact hlooked desk.pool _ (.inl hphase) (Nat.le_refl 4)
  | giveUp hcaller hopen hidle =>
      have hphase := phase?_eq_some_iff.2 ⟨_, hcaller, rfl⟩
      exact hlooked desk.pool _ (.inr hphase) (by simp [Phase.pending])
  | @made caller id context hphase =>
      have hpending := pending_setPhase hphase (.holding context)
      simp only [Phase.pending] at hpending
      omega
  | @failed caller id error hphase =>
      have hsame : ({ desk with pool := desk.pool.cancel, notices := desk.notices + 1 } :
        Desk Context).phase? caller = some (.building id) := hphase
      have hpending := pending_setPhase hsame (.refused error)
      have hnotices : ({ desk with pool := desk.pool.cancel, notices := desk.notices + 1 } :
        Desk Context).pending = desk.pending + 2 := by
        simp only [pending]
        omega
      simp only [Phase.pending] at hpending
      omega
  | drop hnotices hparked =>
      simp only [pending]
      omega
  | @notify caller notices hnotices hphase =>
      have hsame : ({ desk with notices } : Desk Context).phase? caller = some .parked := hphase
      have hpending := pending_setPhase hsame .looking
      have hsent : ({ desk with notices } : Desk Context).pending + 2 = desk.pending := by
        simp only [pending, hnotices]
        omega
      simp only [Phase.pending] at hpending
      omega
  | announce hclosing => exact pending_announce_lt hclosing
  | arrive | expire | wake | release | shutdown => cases hurgent

theorem pending_le (desk : Desk Context) :
    desk.pending ≤ 8 * (desk.callers.length + desk.notices + 1) := by
  have hsum := sum_map_le (fun caller : Caller Context => caller.phase.pending_le) desk.callers
  simp only [pending]
  split <;> omega

/-! ## Settled desks -/

theorem urgent?_runUrgent (factory : Factory Context) (count : Nat) (desk : Desk Context)
    (hle : desk.pending ≤ count) : (desk.runUrgent factory count).1.urgent? factory = none := by
  induction count generalizing desk with
  | zero =>
      cases hurgent : desk.urgent? factory with
      | none => exact hurgent
      | some action =>
          have hpossible := urgent_of_urgent? hurgent
          obtain ⟨next, events, hstep⟩ := hpossible.exists_step
          have hlt := pending_lt_of_move hpossible (move_of_step hstep)
          omega
  | succ count ih =>
      cases hurgent : desk.urgent? factory with
      | none =>
          rw [runUrgent, hurgent]
          exact hurgent
      | some action =>
          have hpossible := urgent_of_urgent? hurgent
          obtain ⟨next, events, hstep⟩ := hpossible.exists_step
          have hlt := pending_lt_of_move hpossible (move_of_step hstep)
          simp only [runUrgent, hurgent, Option.bind_some, hstep]
          exact ih next (by omega)

/-- Nobody at a desk can go on of his own accord. -/
structure Settled (desk : Desk Context) : Prop where
  waits : ∀ {caller : Nat} {phase : Phase Context}, desk.phase? caller = some phase →
    phase.IsSettled ∨ phase = .parked
  notices_eq : desk.notices = 0
  closing_eq : desk.closing = false

theorem settled_of_urgent? (hnone : desk.urgent? factory = none) : desk.Settled := by
  simp only [urgent?] at hnone
  split at hnone
  · contradiction
  · next hown =>
      have hquiet : desk.closing = false ∧ desk.notices = 0 := by
        split at hnone
        · contradiction
        · next hclosing =>
            split at hnone
            · next hnotices => exact ⟨Bool.eq_false_iff.2 hclosing, hnotices⟩
            · contradiction
      refine ⟨?_, hquiet.2, hquiet.1⟩
      intro caller phase hphase
      have hcaller := List.findSome?_eq_none_iff.1 hown caller
        (List.mem_range.2 (phase?_lt hphase))
      rw [hphase, Option.bind_some] at hcaller
      cases phase with
      | parked => exact .inr rfl
      | holding context => exact .inl trivial
      | refused error => exact .inl trivial
      | returned => exact .inl trivial
      | _ => contradiction

/-- A desk settles, whoever is there and however contexts are made. -/
theorem settled_settle (factory : Factory Context) (desk : Desk Context) :
    (desk.settle factory).1.Settled :=
  settled_of_urgent? (urgent?_runUrgent factory _ desk desk.pending_le)

/-- Every run of a desk can be watched. -/
theorem exists_watch {idOf : Context → Nat} {size : Nat} (hreach : Reachable idOf size desk) :
    ∃ watch, Watch.Reachable size watch ∧ watch.desk = desk := by
  induction hreach with
  | refl => exact ⟨.create size, .refl, rfl⟩
  | tail _ hturn ih =>
      obtain ⟨watch, hwatch, rfl⟩ := ih
      cases hturn with
      | act action hstep hnumbers => exact ⟨_, hwatch.tail (.act action hstep), rfl⟩
      | @work caller context worked hphase hsame =>
          exact ⟨_, hwatch.tail (.work caller worked), rfl⟩

/-- At a settled desk no context can be had at once while somebody is parked. -/
theorem Settled.free_eq {idOf : Context → Nat} {size waiter : Nat} (hsettled : desk.Settled)
    (hreach : Reachable idOf size desk) (hparked : desk.phase? waiter = some .parked) :
    desk.pool.free = 0 := by
  have hopen : desk.pool.closed = false := by
    cases hclosed : desk.pool.closed with
    | false => rfl
    | true =>
        rcases roused_of_reachable hreach hclosed with hclosing | hnobody
        · exact absurd (hsettled.closing_eq.symm.trans hclosing) Bool.false_ne_true
        · exact absurd hparked (hnobody waiter)
  obtain ⟨watch, hwatch, rfl⟩ := exists_watch hreach
  have hle := (Watch.sound_of_reachable hwatch).free_le hopen hparked
  have hnobody : watch.woken = ∅ := by
    rw [Finset.eq_empty_iff_forall_notMem]
    intro caller hmem
    obtain ⟨hlooking, -⟩ := Watch.mem_woken.1 hmem
    exact (hsettled.waits hlooking).elim id (nomatch ·)
  rw [hsettled.notices_eq, hnobody, Finset.card_empty] at hle
  exact Nat.le_zero.1 hle

/-- Whoever waits at a settled desk waits for a context that somebody holds. -/
theorem Settled.exists_holding {idOf : Context → Nat} {size waiter : Nat}
    (hsettled : desk.Settled) (hreach : Reachable idOf size desk) (hsize : size ≠ 0)
    (hparked : desk.phase? waiter = some .parked) :
    ∃ caller context, desk.phase? caller = some (.holding context) := by
  have hfree := hsettled.free_eq hreach hparked
  obtain ⟨hsame, hbalanced⟩ := balanced_of_reachable hreach
  have hcreated := hbalanced.created_eq
  have hoccupied : 0 < (desk.occupied idOf).length := by
    simp only [free] at hfree
    omega
  obtain ⟨id, hid⟩ := List.exists_mem_of_length_pos hoccupied
  obtain ⟨entry, hentry, hoccupant⟩ := List.mem_filterMap.1 hid
  obtain ⟨caller, hcaller⟩ := List.mem_iff_getElem?.1 hentry
  have hphase : desk.phase? caller = some entry.phase := phase?_eq_some_iff.2 ⟨entry, hcaller, rfl⟩
  have hwaits := hsettled.waits hphase
  cases hentryPhase : entry.phase with
  | holding context => exact ⟨caller, context, hentryPhase ▸ hphase⟩
  | building number =>
      rw [hentryPhase] at hwaits
      rcases hwaits with hsettled | hparked <;> contradiction
  | _ =>
      rw [hentryPhase] at hoccupant
      contradiction

/-- The pool is open, and nobody was sent away or is about to look for the last time. -/
structure Welcoming (desk : Desk Context) : Prop where
  open_eq : desk.pool.closed = false
  stays : ∀ {caller : Nat} {phase : Phase Context}, desk.phase? caller = some phase →
    phase ≠ .timedOut ∧ ∀ error, phase ≠ .refused error

/-- The actions because of which nobody is sent away. -/
def IsGentle : Action Context → Prop
  | .build _ (.error _) => False
  | .expire _ => False
  | .shutdown => False
  | _ => True

namespace Welcoming

theorem create (size : Nat) : (create size : Desk Context).Welcoming where
  open_eq := rfl
  stays hphase := nomatch hphase

theorem setPhase {after : Phase Context} (hwelcoming : desk.Welcoming) {pool : Pool Context}
    (hopen : pool.closed = false)
    (hafter : after ≠ .timedOut ∧ ∀ error, after ≠ .refused error) (notices caller : Nat) :
    ({ desk with pool, notices }.setPhase caller after).Welcoming where
  open_eq := hopen
  stays := by
    intro other phase hphase
    rcases phase?_setPhase_cases hphase with ⟨-, rfl⟩ | hold
    · exact hafter
    · exact hwelcoming.stays hold

theorem updateHeld (hwelcoming : desk.Welcoming) (caller : Nat) (worked : Context) :
    (desk.updateHeld caller worked).Welcoming := by
  cases hphase : desk.phase? caller with
  | none => simpa [Desk.updateHeld, hphase] using hwelcoming
  | some phase =>
      cases phase with
      | holding context =>
          rw [updateHeld_of_holding hphase]
          exact hwelcoming.setPhase hwelcoming.open_eq (by simp) desk.notices caller
      | _ => simpa [Desk.updateHeld, hphase] using hwelcoming

theorem move (hwelcoming : desk.Welcoming) (hmove : Move desk action next)
    (hgentle : IsGentle action) : next.Welcoming := by
  have hopen := hwelcoming.open_eq
  cases hmove with
  | arrive time millis =>
      refine ⟨hopen, ?_⟩
      intro caller phase hphase
      rcases phase?_arrive_cases hphase with rfl | hold
      · simp
      · exact hwelcoming.stays hold
  | turnAway hlooks hclosed => exact absurd (hopen.symm.trans hclosed) Bool.false_ne_true
  | take hlooks _ hidle =>
      refine hwelcoming.setPhase ?_ (by simp) _ _
      exact hopen
  | reserve hphase _ hidle hroom =>
      refine hwelcoming.setPhase ?_ (by simp) _ _
      exact hopen
  | park hphase _ hidle hfull => exact hwelcoming.setPhase hopen (by simp) _ _
  | giveUp hcaller _ hidle =>
      exact absurd rfl (hwelcoming.stays (phase?_eq_some_iff.2 ⟨_, hcaller, rfl⟩)).1
  | made hphase => exact hwelcoming.setPhase hopen (by simp) _ _
  | drop hnotices hparked => exact ⟨hopen, fun hphase => hwelcoming.stays hphase⟩
  | notify hnotices hphase => exact hwelcoming.setPhase hopen (by simp) _ _
  | announce hclosing =>
      refine ⟨hopen, ?_⟩
      intro caller phase hphase
      obtain ⟨before, hbefore, rfl⟩ := phase?_announce_cases hphase
      have hstays := hwelcoming.stays hbefore
      cases before <;> simp_all [Phase.woken]
  | wake hphase => exact hwelcoming.setPhase hopen (by simp) _ _
  | release hphase =>
      exact hwelcoming.setPhase ((closed_release desk.pool _).trans hopen) (by simp) _ _
  | failed | expire | shutdown => exact hgentle.elim

/-- Where contexts can be made, nobody is sent away while a desk settles. -/
theorem settle (hfactory : ∀ id, ∃ context, factory id = .ok context)
    (hwelcoming : desk.Welcoming) : (desk.settle factory).1.Welcoming := by
  suffices hruns : ∀ count, (desk.runUrgent factory count).1.Welcoming from hruns _
  intro count
  induction count generalizing desk with
  | zero => exact hwelcoming
  | succ count ih =>
      simp only [runUrgent]
      split
      · exact hwelcoming
      · next next events hstep =>
          obtain ⟨action, hurgent, hstep⟩ := Option.bind_eq_some_iff.1 hstep
          refine ih (hwelcoming.move (move_of_step hstep) ?_)
          cases urgent_of_urgent? hurgent with
          | @build caller id hphase =>
              obtain ⟨context, hmade⟩ := hfactory id
              rw [hmade]
              trivial
          | _ => trivial

end Welcoming

end Desk

end ServerRender.Pool
