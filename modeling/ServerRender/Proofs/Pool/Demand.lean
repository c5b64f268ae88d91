import ServerRender.Proofs.Pool.Accounting

/-!
# Contexts made on demand

A pool has a context made for a caller only if none is idle, that is, if all that it
counts are in the hands of callers.  So it never comes to count more contexts than callers
have held or were making at one time.  Room that was reserved for a context that cannot be
made is given up again, and a pool that is closed has no more contexts made, so the same
bound holds for all contexts that were ever made.
-/

namespace ServerRender.Pool

variable {Context : Type}

def Action.makes : Action Context → Nat
  | build _ (.ok _) => 1
  | _ => 0

namespace Desk

variable {desk next : Desk Context} {action : Action Context} {made peak : Nat}

def engaged (desk : Desk Context) : Nat :=
  desk.held.length + desk.reserved.length

theorem length_occupied (idOf : Context → Nat) :
    (desk.occupied idOf).length = desk.engaged := by
  rw [(occupied_perm idOf desk).length_eq, List.length_append, List.length_map, engaged]

/-- What a pool counts was made or is being made, and that was never more than what
callers had to do with at one time. -/
structure Drawn (desk : Desk Context) (made peak : Nat) : Prop where
  created_le : desk.pool.created ≤ made + desk.reserved.length
  created_eq : desk.pool.closed = false → desk.pool.created = made + desk.reserved.length
  drawn_le : made + desk.reserved.length ≤ peak

theorem drawn_create (size peak : Nat) : (create size : Desk Context).Drawn 0 peak where
  created_le := Nat.zero_le _
  created_eq _ := rfl
  drawn_le := Nat.zero_le peak

namespace Drawn

/-- The pool as it was is still drawn on in the same way. -/
theorem of_same (hdrawn : desk.Drawn made peak)
    (hcreated : next.pool.created = desk.pool.created)
    (hclosed : next.pool.closed = desk.pool.closed)
    (hreserved : next.reserved.length = desk.reserved.length) : next.Drawn made peak where
  created_le := by
    rw [hcreated, hreserved]
    exact hdrawn.created_le
  created_eq := by
    rw [hcreated, hclosed, hreserved]
    exact hdrawn.created_eq
  drawn_le := by
    rw [hreserved]
    exact hdrawn.drawn_le

/-- A context that was being made is there. -/
theorem of_made (hdrawn : desk.Drawn made peak)
    (hcreated : next.pool.created = desk.pool.created)
    (hclosed : next.pool.closed = desk.pool.closed)
    (hreserved : desk.reserved.length = next.reserved.length + 1) :
    next.Drawn (made + 1) peak := by
  obtain ⟨hle, heq, hpeak⟩ := hdrawn
  refine ⟨by omega, fun hopen => ?_, by omega⟩
  have hall := heq (hclosed ▸ hopen)
  omega

/-- The room for a context that cannot be made is given up. -/
theorem of_failed (hdrawn : desk.Drawn made peak)
    (hcreated : next.pool.created = desk.pool.created - 1)
    (hclosed : next.pool.closed = desk.pool.closed)
    (hreserved : desk.reserved.length = next.reserved.length + 1) :
    next.Drawn made peak := by
  obtain ⟨hle, heq, hpeak⟩ := hdrawn
  refine ⟨by omega, fun hopen => ?_, by omega⟩
  have hall := heq (hclosed ▸ hopen)
  omega

/-- A closed pool counts less and less. -/
theorem of_closed (hdrawn : desk.Drawn made peak)
    (hcreated : next.pool.created ≤ desk.pool.created) (hclosed : next.pool.closed = true)
    (hreserved : next.reserved.length = desk.reserved.length) : next.Drawn made peak := by
  obtain ⟨hle, -, hpeak⟩ := hdrawn
  refine ⟨by omega, fun hopen => ?_, by omega⟩
  rw [hclosed] at hopen
  contradiction

theorem mono {higher : Nat} (hdrawn : desk.Drawn made peak) (hle : peak ≤ higher) :
    desk.Drawn made higher :=
  { hdrawn with drawn_le := Nat.le_trans hdrawn.drawn_le hle }

theorem created_le_peak (hdrawn : desk.Drawn made peak) : desk.pool.created ≤ peak :=
  Nat.le_trans hdrawn.created_le hdrawn.drawn_le

theorem made_le_peak (hdrawn : desk.Drawn made peak) : made ≤ peak :=
  Nat.le_trans (Nat.le_add_right _ _) hdrawn.drawn_le

end Drawn

section Reserved

variable {caller id : Nat} {before after : Phase Context}

theorem length_reserved_setPhase (hphase : desk.phase? caller = some before)
    (hsame : after.reservation? = before.reservation?) :
    (desk.setPhase caller after).reserved.length = desk.reserved.length :=
  (gathered_setPhase_same Phase.reservation? hphase hsame).length_eq

theorem length_reserved_enter (hphase : desk.phase? caller = some before)
    (hbefore : before.reservation? = none) (hafter : after.reservation? = some id) :
    (desk.setPhase caller after).reserved.length = desk.reserved.length + 1 :=
  (gathered_setPhase_enter Phase.reservation? hphase hbefore hafter).length_eq

theorem length_reserved_leave (hphase : desk.phase? caller = some before)
    (hbefore : before.reservation? = some id) (hafter : after.reservation? = none) :
    desk.reserved.length = (desk.setPhase caller after).reserved.length + 1 :=
  (gathered_setPhase_leave Phase.reservation? hphase hbefore hafter).length_eq

end Reserved

theorem drawn_updateHeld {caller : Nat} (worked : Context) (hdrawn : desk.Drawn made peak) :
    (desk.updateHeld caller worked).Drawn made peak := by
  simp only [updateHeld]
  split
  · next context hphase => exact hdrawn.of_same rfl rfl (length_reserved_setPhase hphase rfl)
  · exact hdrawn

/-- A caller that has a context made finds none idle.  So at that moment callers have all
that the pool counts. -/
theorem drawn_reserve {idOf : Context → Nat} {caller : Nat}
    (hphase : desk.phase? caller = some .looking) (hopen : desk.pool.closed = false)
    (hidle : desk.pool.idle = [])
    (hbalanced : Balanced idOf desk.pool (desk.occupied idOf)) (hdrawn : desk.Drawn made peak)
    (hnext : next = ({ desk with
      pool := { desk.pool with
        created := desk.pool.created + 1, nextId := desk.pool.nextId + 1 } }.setPhase
      caller (.building desk.pool.nextId))) :
    next.Drawn made (max peak next.engaged) := by
  have hreserved : next.reserved.length = desk.reserved.length + 1 := by
    rw [hnext]
    exact length_reserved_enter hphase rfl rfl
  have hheld : next.held.length = desk.held.length := by
    have hsame : Phase.context? (.building desk.pool.nextId : Phase Context) =
      Phase.context? .looking := rfl
    rw [hnext]
    exact (gathered_setPhase_same Phase.context? hphase hsame).length_eq
  have hcreated : next.pool.created = desk.pool.created + 1 := by rw [hnext]; rfl
  have hengaged : desk.pool.created = desk.engaged := by
    rw [hbalanced.created_eq, hidle, length_occupied]
    exact Nat.zero_add _
  have hdrawnEq := hdrawn.created_eq hopen
  have hall : next.pool.created = made + next.reserved.length := by omega
  refine ⟨Nat.le_of_eq hall, fun _ => hall, ?_⟩
  calc
    made + next.reserved.length = next.pool.created := hall.symm
    _ = next.engaged := by
      simp only [engaged] at hengaged ⊢
      omega
    _ ≤ max peak next.engaged := Nat.le_max_right _ _

theorem drawn_of_move {idOf : Context → Nat} (hmove : Move desk action next)
    (hbalanced : Balanced idOf desk.pool (desk.occupied idOf)) (hdrawn : desk.Drawn made peak) :
    next.Drawn (made + action.makes) (max peak next.engaged) := by
  have hmono := hdrawn.mono (Nat.le_max_left peak next.engaged)
  cases hmove with
  | arrive time millis =>
      refine hmono.of_same rfl rfl ?_
      exact congrArg List.length (gathered_arrive Phase.reservation? rfl time millis)
  | turnAway hlooks hclosed =>
      rcases hlooks with hphase | hphase <;>
        exact hmono.of_same rfl rfl (length_reserved_setPhase hphase rfl)
  | take hlooks hopen hidle =>
      rcases hlooks with hphase | hphase <;>
        exact hmono.of_same rfl rfl (length_reserved_setPhase hphase rfl)
  | reserve hphase hopen hidle hroom =>
      exact drawn_reserve hphase hopen hidle hbalanced hdrawn rfl
  | park hphase hopen hidle hfull =>
      exact hmono.of_same rfl rfl (length_reserved_setPhase hphase rfl)
  | giveUp hcaller hopen hidle =>
      have hphase := phase?_eq_some_iff.2 ⟨_, hcaller, rfl⟩
      exact hmono.of_same rfl rfl (length_reserved_setPhase hphase rfl)
  | made hphase => exact hmono.of_made rfl rfl (length_reserved_leave hphase rfl rfl)
  | failed hphase => exact hmono.of_failed rfl rfl (length_reserved_leave hphase rfl rfl)
  | drop hnotices hparked => exact hmono.of_same rfl rfl rfl
  | notify hnotices hphase =>
      exact hmono.of_same rfl rfl (length_reserved_setPhase hphase rfl)
  | announce hclosing =>
      refine hmono.of_same rfl rfl ?_
      exact congrArg List.length (gathered_announce Phase.reservation? reservation?_woken)
  | expire hphase => exact hmono.of_same rfl rfl (length_reserved_setPhase hphase rfl)
  | wake hphase => exact hmono.of_same rfl rfl (length_reserved_setPhase hphase rfl)
  | @release caller context hphase =>
      have hreserved := length_reserved_setPhase hphase
        (rfl : Phase.reservation? .returned = Phase.reservation? (.holding context))
      cases hclosed : desk.pool.closed with
      | true =>
          refine hmono.of_closed ?_ ((closed_release desk.pool context).trans hclosed) hreserved
          simp [Pool.release, hclosed]
      | false =>
          refine hmono.of_same ?_ (closed_release desk.pool context) hreserved
          simp [Pool.release, hclosed]
  | shutdown =>
      cases hclosed : desk.pool.closed with
      | true =>
          have hsame : desk.pool.shutdown.1 = desk.pool := by simp [Pool.shutdown, hclosed]
          exact hmono.of_same (congrArg Pool.created hsame) (congrArg Pool.closed hsame) rfl
      | false =>
          refine hmono.of_closed ?_ ?_ rfl
          · simp [Desk.shutdown, Pool.shutdown, hclosed]
          · simp [Desk.shutdown, Pool.shutdown, hclosed]

end Desk

end ServerRender.Pool
