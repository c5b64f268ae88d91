import ServerRender.Proofs.Pool.Accounting

/-!
# Shutting a pool down

A pool that is shut down tears its contexts down on three ways: those that are idle at
once, those that are held when they are given back, and those that are still being made
when their makers give them back.  This file follows every context that was ever made
into the hands of whoever tears it down, and every caller who comes to a closed pool or
is found waiting there.  Tearing down takes its own time, after the pool was left, so a
context that has left the pool for good is first doomed and only then torn down.
-/

namespace ServerRender.Pool

open List

variable {Context : Type} {idOf : Context → Nat}

/-- The numbers of all contexts that were made, and of those that are being made, are
those of the idle ones, of those in the hands of callers and of those that are gone. -/
structure Traced (idOf : Context → Nat) (pool : Pool Context)
    (occupied reserved made gone : List Nat) : Prop where
  whole : pool.idle.map idOf ++ occupied ++ gone ~ made ++ reserved
  ids_nodup : (made ++ reserved).Nodup
  ids_lt : ∀ id ∈ made ++ reserved, id < pool.nextId

namespace Traced

variable {pool : Pool Context} {occupied reserved made gone : List Nat} {id : Nat}

theorem empty (idOf : Context → Nat) (size : Nat) :
    Traced idOf (Pool.empty size) [] [] [] [] where
  whole := .refl []
  ids_nodup := nodup_nil
  ids_lt := by simp

theorem perm {others otherReserved otherGone : List Nat}
    (htraced : Traced idOf pool occupied reserved made gone) (hperm : others ~ occupied)
    (hreserved : otherReserved ~ reserved) (hgone : otherGone ~ gone) :
    Traced idOf pool others otherReserved made otherGone where
  whole := calc
    pool.idle.map idOf ++ others ++ otherGone
      ~ pool.idle.map idOf ++ occupied ++ gone := (hperm.append_left _).append hgone
    _ ~ made ++ reserved := htraced.whole
    _ ~ made ++ otherReserved := hreserved.symm.append_left made
  ids_nodup := (hreserved.append_left made).nodup_iff.2 htraced.ids_nodup
  ids_lt number hnumber :=
    htraced.ids_lt number ((hreserved.append_left made).mem_iff.1 hnumber)

theorem take {context : Context} {rest : List Context}
    (htraced : Traced idOf pool occupied reserved made gone)
    (hidle : pool.idle = context :: rest) :
    Traced idOf { pool with idle := rest } (idOf context :: occupied) reserved made gone := by
  refine ⟨?_, htraced.ids_nodup, htraced.ids_lt⟩
  have hwhole := htraced.whole
  rw [hidle] at hwhole
  exact (perm_middle.append_right gone).trans hwhole

theorem reserve (htraced : Traced idOf pool occupied reserved made gone) :
    Traced idOf { pool with created := pool.created + 1, nextId := pool.nextId + 1 }
      (pool.nextId :: occupied) (pool.nextId :: reserved) made gone := by
  have hperm : made ++ pool.nextId :: reserved ~ pool.nextId :: (made ++ reserved) :=
    perm_middle
  refine ⟨?_, hperm.nodup_iff.2 (nodup_cons.2 ⟨?_, htraced.ids_nodup⟩), ?_⟩
  · calc
      pool.idle.map idOf ++ pool.nextId :: occupied ++ gone
        ~ pool.nextId :: (pool.idle.map idOf ++ occupied ++ gone) :=
          perm_middle.append_right gone
      _ ~ pool.nextId :: (made ++ reserved) := htraced.whole.cons _
      _ ~ made ++ pool.nextId :: reserved := hperm.symm
  · intro hnext
    exact Nat.lt_irrefl _ (htraced.ids_lt _ hnext)
  · intro number hnumber
    rcases mem_cons.1 (hperm.mem_iff.1 hnumber) with rfl | hold
    · exact Nat.lt_succ_self _
    · exact Nat.lt_succ_of_lt (htraced.ids_lt number hold)

/-- A number that was reserved becomes that of a context. -/
theorem make (htraced : Traced idOf pool occupied (id :: reserved) made gone) :
    Traced idOf pool occupied reserved (id :: made) gone := by
  have hperm : made ++ id :: reserved ~ id :: made ++ reserved := perm_middle
  refine ⟨htraced.whole.trans hperm, hperm.nodup_iff.1 htraced.ids_nodup, ?_⟩
  intro number hnumber
  exact htraced.ids_lt number (hperm.mem_iff.2 hnumber)

/-- A number was reserved for nothing. -/
theorem cancel (htraced : Traced idOf pool (id :: occupied) (id :: reserved) made gone) :
    Traced idOf pool.cancel occupied reserved made gone := by
  have hperm : made ++ id :: reserved ~ id :: (made ++ reserved) := perm_middle
  have hwhole : id :: (pool.idle.map idOf ++ occupied ++ gone) ~ id :: (made ++ reserved) :=
    calc
      id :: (pool.idle.map idOf ++ occupied ++ gone)
        ~ pool.idle.map idOf ++ id :: occupied ++ gone := perm_middle.symm.append_right gone
      _ ~ made ++ id :: reserved := htraced.whole
      _ ~ id :: (made ++ reserved) := hperm
  refine ⟨hwhole.cons_inv, (nodup_cons.1 (hperm.nodup_iff.1 htraced.ids_nodup)).2, ?_⟩
  intro number hnumber
  exact htraced.ids_lt number (hperm.mem_iff.2 (mem_cons_of_mem id hnumber))

/-- A context that is given back is idle again, or it is gone. -/
theorem release {context : Context}
    (htraced : Traced idOf pool (idOf context :: occupied) reserved made gone) :
    Traced idOf (pool.release context).1 occupied reserved made
      ((if (pool.release context).2 then [context] else []).map idOf ++ gone) := by
  have hmoved : idOf context :: (pool.idle.map idOf ++ occupied ++ gone) ~ made ++ reserved :=
    (perm_middle.symm.append_right gone).trans htraced.whole
  cases hclosed : pool.closed with
  | true =>
      have hwhole : pool.idle.map idOf ++ occupied ++ idOf context :: gone ~ made ++ reserved :=
        perm_middle.trans hmoved
      simpa [Pool.release, hclosed] using
        (⟨hwhole, htraced.ids_nodup, htraced.ids_lt⟩ : Traced idOf
          { pool with created := pool.created - 1 } occupied reserved made
          (idOf context :: gone))
  | false =>
      simpa [Pool.release, hclosed] using
        (⟨hmoved, htraced.ids_nodup, htraced.ids_lt⟩ : Traced idOf
          { pool with idle := context :: pool.idle } occupied reserved made gone)

/-- The idle contexts of a pool that closes are gone. -/
theorem shutdown (htraced : Traced idOf pool occupied reserved made gone) :
    Traced idOf pool.shutdown.1 occupied reserved made
      (pool.shutdown.2.map idOf ++ gone) := by
  cases hclosed : pool.closed with
  | true => simpa [Pool.shutdown, hclosed] using htraced
  | false =>
      have hwhole : occupied ++ (pool.idle.map idOf ++ gone) ~ made ++ reserved := calc
        occupied ++ (pool.idle.map idOf ++ gone)
          = occupied ++ pool.idle.map idOf ++ gone := (append_assoc ..).symm
        _ ~ pool.idle.map idOf ++ occupied ++ gone := perm_append_comm.append_right gone
        _ ~ made ++ reserved := htraced.whole
      simpa [Pool.shutdown, hclosed] using
        (⟨hwhole, htraced.ids_nodup, htraced.ids_lt⟩ : Traced idOf
          { pool with
            closed := true, idle := [], created := pool.created - pool.idle.length }
          occupied reserved made (pool.idle.map idOf ++ gone))

end Traced

/-! ## Ledgers -/

def Action.product? : Action Context → Option Context
  | .build _ (.ok context) => some context
  | _ => none

def Desk.dismissed (desk : Desk Context) : Action Context → List Context
  | .shutdown => desk.pool.shutdown.2
  | .release caller =>
    match desk.phase? caller with
    | some (.holding context) => if (desk.pool.release context).2 then [context] else []
    | _ => []
  | _ => []

/-- A desk with a record of its contexts by number. -/
structure Ledger (Context : Type) where
  desk : Desk Context
  /-- All contexts that were ever made. -/
  made : List Nat
  /-- Those that have left for good and are still to be torn down. -/
  doomed : List Nat
  tornDown : List Nat

namespace Ledger

def create (size : Nat) : Ledger Context :=
  ⟨.create size, [], [], []⟩

def gone (ledger : Ledger Context) : List Nat :=
  ledger.doomed ++ ledger.tornDown

def note (idOf : Context → Nat) (ledger : Ledger Context) (action : Action Context)
    (next : Desk Context) : Ledger Context where
  desk := next
  made := (action.product?.map idOf).toList ++ ledger.made
  doomed := (ledger.desk.dismissed action).map idOf ++ ledger.doomed
  tornDown := ledger.tornDown

/-- What may happen next: a turn at the desk, or the end of a context that has left. -/
inductive Turn (idOf : Context → Nat) (ledger : Ledger Context) : Ledger Context → Prop
  | act (action : Action Context) {next : Desk Context} {events : List Log.Event}
      (hstep : ledger.desk.step action = some (next, events))
      (hnumbers : ledger.desk.Numbers idOf action) :
      Turn idOf ledger (ledger.note idOf action next)
  | work {caller : Nat} {context worked : Context}
      (hphase : ledger.desk.phase? caller = some (.holding context))
      (hsame : idOf worked = idOf context) :
      Turn idOf ledger { ledger with desk := ledger.desk.updateHeld caller worked }
  | tearDown {id : Nat} (hdoomed : id ∈ ledger.doomed) :
      Turn idOf ledger
        { ledger with doomed := ledger.doomed.erase id, tornDown := id :: ledger.tornDown }

def Reaches (idOf : Context → Nat) : Ledger Context → Ledger Context → Prop :=
  Relation.ReflTransGen (Turn idOf)

def Reachable (idOf : Context → Nat) (size : Nat) : Ledger Context → Prop :=
  Reaches idOf (create size)

end Ledger

/-- A phase in which a caller has neither a context, or a number for one, nor an answer. -/
def Phase.IsWaiting : Phase Context → Prop
  | .looking => True
  | .parked => True
  | .timedOut => True
  | _ => False

theorem Phase.isWaiting_woken {phase : Phase Context} (hwaiting : phase.IsWaiting) :
    phase.woken.IsWaiting := by
  cases phase with
  | looking => trivial
  | parked => trivial
  | timedOut => trivial
  | _ => exact hwaiting

namespace Desk

variable {desk next : Desk Context} {action : Action Context} {made gone : List Nat}
  {caller : Nat} {phase : Phase Context}

/-- A caller whose phase changes takes no number and gives none away. -/
private theorem traced_setPhase_same {before after : Phase Context}
    (htraced : Traced idOf desk.pool (desk.occupied idOf) desk.reserved made gone)
    (hphase : desk.phase? caller = some before)
    (hoccupant : after.occupant? idOf = before.occupant? idOf)
    (hreservation : after.reservation? = before.reservation?) :
    Traced idOf desk.pool ((desk.setPhase caller after).occupied idOf)
      (desk.setPhase caller after).reserved made gone :=
  htraced.perm (gathered_setPhase_same (Phase.occupant? idOf) hphase hoccupant)
    (gathered_setPhase_same Phase.reservation? hphase hreservation) (.refl gone)

theorem traced_of_move (hmove : Move desk action next) (hnumbers : desk.Numbers idOf action)
    (htraced : Traced idOf desk.pool (desk.occupied idOf) desk.reserved made gone) :
    Traced idOf next.pool (next.occupied idOf) next.reserved
      ((action.product?.map idOf).toList ++ made)
      ((desk.dismissed action).map idOf ++ gone) := by
  cases hmove with
  | arrive time millis =>
      have hoccupied : (desk.arrive time millis).occupied idOf = desk.occupied idOf :=
        gathered_arrive (Phase.occupant? idOf) rfl time millis
      have hreserved : (desk.arrive time millis).reserved = desk.reserved :=
        gathered_arrive Phase.reservation? rfl time millis
      rw [hoccupied, hreserved]
      exact htraced
  | turnAway hlooks hclosed =>
      rcases hlooks with hphase | hphase <;>
        exact traced_setPhase_same htraced hphase rfl rfl
  | take hlooks hopen hidle =>
      rcases hlooks with hphase | hphase <;>
        exact (htraced.take hidle).perm
          (gathered_setPhase_enter (Phase.occupant? idOf) hphase rfl rfl)
          (gathered_setPhase_same Phase.reservation? hphase rfl) (.refl gone)
  | reserve hphase hopen hidle hroom =>
      exact htraced.reserve.perm
        (gathered_setPhase_enter (Phase.occupant? idOf) hphase rfl rfl)
        (gathered_setPhase_enter Phase.reservation? hphase rfl rfl) (.refl gone)
  | park hphase hopen hidle hfull => exact traced_setPhase_same htraced hphase rfl rfl
  | giveUp hcaller hopen hidle =>
      have hphase := phase?_eq_some_iff.2 ⟨_, hcaller, rfl⟩
      exact traced_setPhase_same htraced hphase rfl rfl
  | @made caller number context hphase =>
      obtain rfl := Phase.building.inj (Option.some.inj (hphase.symm.trans hnumbers))
      have hoccupied : (desk.setPhase caller (.holding context)).occupied idOf ~
          desk.occupied idOf :=
        gathered_setPhase_same (Phase.occupant? idOf) hphase rfl
      have hreserved : desk.reserved ~
          idOf context :: (desk.setPhase caller (.holding context)).reserved :=
        gathered_setPhase_leave Phase.reservation? hphase rfl rfl
      exact (htraced.perm hoccupied hreserved.symm (.refl gone)).make
  | @failed caller number error hphase =>
      have hoccupied : desk.occupied idOf ~
          number :: (desk.setPhase caller (.refused error)).occupied idOf :=
        gathered_setPhase_leave (Phase.occupant? idOf) hphase rfl rfl
      have hreserved : desk.reserved ~
          number :: (desk.setPhase caller (.refused error)).reserved :=
        gathered_setPhase_leave Phase.reservation? hphase rfl rfl
      exact (htraced.perm hoccupied.symm hreserved.symm (.refl gone)).cancel
  | drop hnotices hparked => exact htraced
  | notify hnotices hphase => exact traced_setPhase_same htraced hphase rfl rfl
  | announce hclosing =>
      rw [occupied, ← gathered, gathered_announce _ occupant?_woken, reserved, ← gathered,
        gathered_announce _ reservation?_woken]
      exact htraced
  | expire hphase => exact traced_setPhase_same htraced hphase rfl rfl
  | wake hphase => exact traced_setPhase_same htraced hphase rfl rfl
  | @release caller context hphase =>
      have hoccupied : desk.occupied idOf ~
          idOf context :: (desk.setPhase caller .returned).occupied idOf :=
        gathered_setPhase_leave (Phase.occupant? idOf) hphase rfl rfl
      have hreserved : (desk.setPhase caller .returned).reserved ~ desk.reserved :=
        gathered_setPhase_same Phase.reservation? hphase rfl
      have hdismissed : desk.dismissed (.release caller) =
          if (desk.pool.release context).2 then [context] else [] := by
        simp only [dismissed, hphase]
      rw [hdismissed]
      exact (htraced.perm hoccupied.symm hreserved (.refl gone)).release
  | shutdown => exact htraced.shutdown

/-- A pool that is closed stays closed. -/
theorem closed_of_move (hmove : Move desk action next) (hclosed : desk.pool.closed = true) :
    next.pool.closed = true := by
  cases hmove with
  | release hphase => rwa [pool_setPhase, closed_release]
  | shutdown => simp [shutdown, Pool.shutdown, hclosed]
  | _ => exact hclosed

/-- A closed pool sends away whoever looks, for the first time or for the last. -/
theorem step_look_of_closed (hclosed : desk.pool.closed = true) (hlooks : desk.Looks caller) :
    desk.step (.look caller) = some (desk.setPhase caller (.refused .poolShutdown), []) := by
  rcases hlooks with hphase | hphase
  · obtain ⟨⟨millis, deadline, _⟩, hentry, rfl⟩ := phase?_eq_some_iff.1 hphase
    simp [step, hentry, lookStep, look_of_closed hclosed, phaseAfterLook]
  · obtain ⟨⟨millis, deadline, _⟩, hentry, rfl⟩ := phase?_eq_some_iff.1 hphase
    simp [step, hentry, lookStep, lastLook_of_closed hclosed, phaseAfterLook]

/-- Nobody who waits at a closed pool, or comes there, gets anything but a refusal. -/
theorem isBarred_of_move (hmove : Move desk action next) (hclosed : desk.pool.closed = true)
    (hbarred : ∀ phase, desk.phase? caller = some phase →
      phase.IsWaiting ∨ phase = .refused .poolShutdown)
    (hphase : next.phase? caller = some phase) :
    phase.IsWaiting ∨ phase = .refused .poolShutdown := by
  have hmoved : ∀ {moved : Nat} {after : Phase Context},
      (after.IsWaiting ∨ after = .refused .poolShutdown) →
      (desk.setPhase moved after).phase? caller = some phase →
      phase.IsWaiting ∨ phase = .refused .poolShutdown := by
    intro moved after hafter hset
    rcases phase?_setPhase_cases hset with ⟨-, rfl⟩ | hold
    · exact hafter
    · exact hbarred phase hold
  -- The callers that have more than a place to wait are not the one in question.
  have hother : ∀ {moved : Nat} {before after : Phase Context},
      desk.phase? moved = some before →
      ¬ (before.IsWaiting ∨ before = .refused .poolShutdown) →
      (desk.setPhase moved after).phase? caller = some phase →
      phase.IsWaiting ∨ phase = .refused .poolShutdown := by
    intro moved before after hbefore hserved hset
    rcases phase?_setPhase_cases hset with ⟨rfl, -⟩ | hold
    · exact absurd (hbarred before hbefore) hserved
    · exact hbarred phase hold
  have looking_isWaiting : (Phase.looking : Phase Context).IsWaiting := trivial
  have timedOut_isWaiting : (Phase.timedOut : Phase Context).IsWaiting := trivial
  cases hmove with
  | arrive time millis =>
      rcases phase?_arrive_cases hphase with rfl | hold
      · exact .inl trivial
      · exact hbarred phase hold
  | turnAway hlooks _ => exact hmoved (.inr rfl) hphase
  | take hlooks hopen hidle => simp [hclosed] at hopen
  | reserve hlooks hopen hidle hroom => simp [hclosed] at hopen
  | park hlooks hopen hidle hfull => simp [hclosed] at hopen
  | giveUp hcaller hopen hidle => simp [hclosed] at hopen
  | made hbuilding => exact hother hbuilding (by simp [Phase.IsWaiting]) hphase
  | failed hbuilding => exact hother hbuilding (by simp [Phase.IsWaiting]) hphase
  | drop hnotices hparked => exact hbarred phase hphase
  | notify hnotices hparked => exact hmoved (.inl looking_isWaiting) hphase
  | announce hclosing =>
      obtain ⟨before, hbefore, rfl⟩ := phase?_announce_cases hphase
      rcases hbarred before hbefore with hwaiting | rfl
      · exact .inl (Phase.isWaiting_woken hwaiting)
      · exact .inr rfl
  | expire hparked => exact hmoved (.inl timedOut_isWaiting) hphase
  | wake hparked => exact hmoved (.inl looking_isWaiting) hphase
  | release hheld => exact hother hheld (by simp [Phase.IsWaiting]) hphase
  | shutdown => exact hbarred phase hphase

/-- At a closed pool nobody comes to hold or make a context whose number it had not
before. -/
theorem occupant?_of_move (hmove : Move desk action next) (hnumbers : desk.Numbers idOf action)
    (hclosed : desk.pool.closed = true) {id : Nat} (hphase : next.phase? caller = some phase)
    (hid : phase.occupant? idOf = some id) :
    ∃ before, desk.phase? caller = some before ∧ before.occupant? idOf = some id := by
  have hmoved : ∀ {moved : Nat} {after : Phase Context}, after.occupant? idOf = none →
      (desk.setPhase moved after).phase? caller = some phase →
      ∃ before, desk.phase? caller = some before ∧ before.occupant? idOf = some id := by
    intro moved after hafter hset
    rcases phase?_setPhase_cases hset with ⟨-, rfl⟩ | hold
    · rw [hafter] at hid
      contradiction
    · exact ⟨phase, hold, hid⟩
  cases hmove with
  | arrive time millis =>
      rcases phase?_arrive_cases hphase with rfl | hold
      · contradiction
      · exact ⟨phase, hold, hid⟩
  | turnAway hlooks _ => exact hmoved rfl hphase
  | take hlooks hopen hidle => simp [hclosed] at hopen
  | reserve hlooks hopen hidle hroom => simp [hclosed] at hopen
  | park hlooks hopen hidle hfull => simp [hclosed] at hopen
  | giveUp hcaller hopen hidle => simp [hclosed] at hopen
  | made hbuilding =>
      rcases phase?_setPhase_cases hphase with ⟨rfl, rfl⟩ | hold
      · exact ⟨_, hnumbers, hid⟩
      · exact ⟨phase, hold, hid⟩
  | failed hbuilding => exact hmoved rfl hphase
  | drop hnotices hparked => exact ⟨phase, hphase, hid⟩
  | notify hnotices hparked => exact hmoved rfl hphase
  | announce hclosing =>
      obtain ⟨before, hbefore, rfl⟩ := phase?_announce_cases hphase
      exact ⟨before, hbefore, (occupant?_woken before).symm.trans hid⟩
  | expire hparked => exact hmoved rfl hphase
  | wake hparked => exact hmoved rfl hphase
  | release hheld => exact hmoved rfl hphase
  | shutdown => exact ⟨phase, hphase, hid⟩

/-- A closed pool has still to be announced as closed, or nobody is parked there. -/
def Roused (desk : Desk Context) : Prop :=
  desk.pool.closed = true → desk.closing = true ∨ ∀ caller, desk.phase? caller ≠ some .parked

theorem roused_of_move (hmove : Move desk action next) (hroused : desk.Roused) :
    next.Roused := by
  have hset : ∀ {moved : Nat} {after : Phase Context}, after ≠ .parked →
      (desk.closing = true ∨ ∀ caller, desk.phase? caller ≠ some .parked) →
      desk.closing = true ∨ ∀ caller, (desk.setPhase moved after).phase? caller ≠ some .parked := by
    intro moved after hafter hbefore
    refine hbefore.imp_right fun hnone caller hparked => ?_
    rcases phase?_setPhase_cases hparked with ⟨-, rfl⟩ | hold
    · exact hafter rfl
    · exact hnone caller hold
  intro hclosed
  cases hmove with
  | arrive time millis =>
      refine (hroused hclosed).imp_right fun hnone caller hparked => ?_
      rcases phase?_arrive_cases hparked with hlooking | hold
      · contradiction
      · exact hnone caller hold
  | turnAway hlooks _ => exact hset (by simp) (hroused hclosed)
  | take hlooks hopen hidle => exact hset (by simp) (hroused hclosed)
  | reserve hlooks hopen hidle hroom => exact hset (by simp) (hroused hclosed)
  | park hlooks hopen hidle hfull => simp_all
  | giveUp hcaller hopen hidle => exact hset (by simp) (hroused hclosed)
  | made hbuilding => exact hset (by simp) (hroused hclosed)
  | failed hbuilding => exact hset (by simp) (hroused hclosed)
  | drop hnotices hparked => exact hroused hclosed
  | notify hnotices hparked => exact hset (by simp) (hroused hclosed)
  | announce hclosing =>
      refine .inr fun caller hparked => ?_
      obtain ⟨before, -, hwoken⟩ := phase?_announce_cases hparked
      cases before <;> contradiction
  | expire hparked => exact hset (by simp) (hroused hclosed)
  | wake hparked => exact hset (by simp) (hroused hclosed)
  | release hheld =>
      have hbefore : desk.pool.closed = true := by
        rwa [pool_setPhase, closed_release] at hclosed
      exact hset (by simp) (hroused hbefore)
  | shutdown =>
      cases hbefore : desk.pool.closed with
      | true =>
          refine (hroused hbefore).imp_left fun hclosing => ?_
          simp [shutdown, hclosing]
      | false => exact .inl (by simp [shutdown, hbefore])

structure Sealed (idOf : Context → Nat) (earlier later : Desk Context) : Prop where
  closed : later.pool.closed = true
  /-- Who was waiting, or has come since, is waiting or was sent away. -/
  barred : ∀ {caller : Nat} {phase : Phase Context},
    (∀ before, earlier.phase? caller = some before → before.IsWaiting) →
    later.phase? caller = some phase → phase.IsWaiting ∨ phase = .refused .poolShutdown
  /-- Who holds or makes a context held or made it, under its number, all the time. -/
  occupant : ∀ {caller id : Nat} {phase : Phase Context},
    later.phase? caller = some phase → phase.occupant? idOf = some id →
    ∃ before, earlier.phase? caller = some before ∧ before.occupant? idOf = some id

theorem sealed_refl (hclosed : desk.pool.closed = true) : Sealed idOf desk desk where
  closed := hclosed
  barred hwaiting hphase := .inl (hwaiting _ hphase)
  occupant hphase hid := ⟨_, hphase, hid⟩

theorem sealed_of_turn {earlier : Desk Context} (hsealed : Sealed idOf earlier desk)
    (hturn : Turn idOf desk next) : Sealed idOf earlier next := by
  cases hturn with
  | act action hstep hnumbers =>
      have hmove := move_of_step hstep
      refine ⟨closed_of_move hmove hsealed.closed, ?_, ?_⟩
      · intro caller phase hwaiting hphase
        exact isBarred_of_move hmove hsealed.closed
          (fun before hbefore => hsealed.barred hwaiting hbefore) hphase
      · intro caller id phase hphase hid
        obtain ⟨before, hbefore, hsame⟩ :=
          occupant?_of_move hmove hnumbers hsealed.closed hphase hid
        exact hsealed.occupant hbefore hsame
  | @work worker context worked hheld hsame =>
      rw [updateHeld_of_holding hheld]
      refine ⟨hsealed.closed, ?_, ?_⟩
      · intro caller phase hwaiting hphase
        rcases phase?_setPhase_cases hphase with ⟨rfl, -⟩ | hold
        · have hbarred := hsealed.barred hwaiting hheld
          simp [Phase.IsWaiting] at hbarred
        · exact hsealed.barred hwaiting hold
      · intro caller id phase hphase hid
        rcases phase?_setPhase_cases hphase with ⟨rfl, rfl⟩ | hold
        · exact hsealed.occupant hheld (by rwa [Phase.occupant?, ← hsame])
        · exact hsealed.occupant hold hid

theorem sealed_of_turns {earlier later : Desk Context} (hclosed : earlier.pool.closed = true)
    (hturns : Relation.ReflTransGen (Turn idOf) earlier later) : Sealed idOf earlier later := by
  induction hturns with
  | refl => exact sealed_refl hclosed
  | tail _ hturn ih => exact sealed_of_turn ih hturn

theorem roused_of_reachable {size : Nat} (hreach : Reachable idOf size desk) : desk.Roused := by
  induction hreach with
  | refl =>
      intro hclosed
      contradiction
  | tail _ hturn ih =>
      cases hturn with
      | act action hstep hnumbers => exact roused_of_move (move_of_step hstep) ih
      | work hheld hsame =>
          rw [updateHeld_of_holding hheld]
          intro hclosed
          refine (ih hclosed).imp_right fun hnone caller hparked => ?_
          rcases phase?_setPhase_cases hparked with ⟨-, hholding⟩ | hold
          · contradiction
          · exact hnone caller hold

end Desk

/-! ## Runs -/

namespace Ledger

variable {ledger next later : Ledger Context} {size : Nat}

/-- The record changes nothing at the desk. -/
theorem desk_of_turn (hturn : Turn idOf ledger next) :
    next.desk = ledger.desk ∨ Desk.Turn idOf ledger.desk next.desk := by
  cases hturn with
  | act action hstep hnumbers => exact .inr (.act action hstep hnumbers)
  | work hphase hsame => exact .inr (.work hphase hsame)
  | tearDown hdoomed => exact .inl rfl

theorem desk_of_reaches (hreach : Reaches idOf ledger later) :
    Relation.ReflTransGen (Desk.Turn idOf) ledger.desk later.desk := by
  induction hreach with
  | refl => exact .refl
  | tail _ hturn ih =>
      rcases desk_of_turn hturn with hsame | hdesk
      · rwa [hsame]
      · exact ih.tail hdesk

theorem traced_of_turn (hturn : Turn idOf ledger next)
    (htraced : Traced idOf ledger.desk.pool (ledger.desk.occupied idOf) ledger.desk.reserved
      ledger.made ledger.gone) :
    Traced idOf next.desk.pool (next.desk.occupied idOf) next.desk.reserved next.made
      next.gone := by
  cases hturn with
  | act action hstep hnumbers =>
      have hmoved := Desk.traced_of_move (Desk.move_of_step hstep) hnumbers htraced
      rw [gone, ← append_assoc] at hmoved
      exact hmoved
  | work hphase hsame =>
      simp only [Desk.updateHeld_of_holding hphase]
      exact Desk.traced_setPhase_same htraced hphase (congrArg some hsame) rfl
  | @tearDown id hdoomed =>
      refine htraced.perm (.refl _) (.refl _) ?_
      calc
        ledger.doomed.erase id ++ id :: ledger.tornDown
          ~ id :: (ledger.doomed.erase id ++ ledger.tornDown) := perm_middle
        _ ~ ledger.doomed ++ ledger.tornDown :=
          (perm_cons_erase hdoomed).symm.append_right ledger.tornDown

theorem traced_of_reachable (hreach : Reachable idOf size ledger) :
    Traced idOf ledger.desk.pool (ledger.desk.occupied idOf) ledger.desk.reserved
      ledger.made ledger.gone := by
  induction hreach with
  | refl => exact .empty idOf size
  | tail _ hturn ih => exact traced_of_turn hturn ih

/-- Every context is made once, and leaves for good at most once. -/
structure LeavesOnce (ledger : Ledger Context) : Prop where
  made_nodup : ledger.made.Nodup
  gone_nodup : ledger.gone.Nodup
  gone_subset : ledger.gone ⊆ ledger.made

/-- A context that has left is nobody's, so it cannot be one that is still being made. -/
theorem leavesOnce_of_reachable (hreach : Reachable idOf size ledger) : ledger.LeavesOnce := by
  have htraced := traced_of_reachable hreach
  have hwhole := htraced.whole.nodup_iff.2 htraced.ids_nodup
  refine ⟨(nodup_append.1 htraced.ids_nodup).1, (nodup_append.1 hwhole).2.1, ?_⟩
  intro id hgone
  have hmem : id ∈ ledger.made ++ ledger.desk.reserved :=
    htraced.whole.mem_iff.1 (mem_append_right _ hgone)
  refine (mem_append.1 hmem).resolve_right fun hreserved => ?_
  have hoccupied : id ∈ ledger.desk.occupied idOf :=
    (Desk.occupied_perm idOf ledger.desk).mem_iff.2 (mem_append_right _ hreserved)
  exact (nodup_append.1 hwhole).2.2 id (mem_append_right _ hoccupied) id hgone rfl

/-- What has become of a ledger with a closed pool. -/
structure Drained (idOf : Context → Nat) (earlier later : Ledger Context) : Prop
    extends Desk.Sealed idOf earlier.desk later.desk where
  idle : later.desk.pool.idle = []
  sent_away : ∀ {caller : Nat}, later.desk.Looks caller →
    later.desk.step (.look caller) =
      some (later.desk.setPhase caller (.refused .poolShutdown), [])
  /-- Nobody sleeps through the announcement. -/
  roused : later.desk.closing = false → ∀ caller, later.desk.phase? caller ≠ some .parked
  /-- Nothing is left once nobody holds or makes a context. -/
  emptied : later.desk.held = [] → later.desk.reserved = [] →
    later.desk.pool.created = 0 ∧ later.gone ~ later.made ∧
      (later.doomed = [] → later.tornDown ~ later.made)

/-- However the callers of a pool act, each of its contexts is torn down at most once.
Once it is closed it stays drained: nothing becomes idle, everybody who looks is sent
away, only those who held or made a context at that time ever have one, and when they
have given it back nothing is counted and every context that was made is torn down. -/
theorem drained_of_reachable (idOf : Context → Nat) (size : Nat) {ledger : Ledger Context}
    (hreach : Reachable idOf size ledger) :
    ledger.LeavesOnce ∧
      (ledger.desk.pool.closed = true →
        ∀ {later : Ledger Context}, Reaches idOf ledger later → Drained idOf ledger later) := by
  refine ⟨leavesOnce_of_reachable hreach, fun hclosed later hlater => ?_⟩
  have hreached : Reachable idOf size later := hreach.trans hlater
  have hdesk : Desk.Reachable idOf size later.desk := desk_of_reaches hreached
  have hbalanced := (Desk.balanced_of_reachable hdesk).2
  have hsealed := Desk.sealed_of_turns hclosed (desk_of_reaches hlater)
  have hidle := hbalanced.idle_of_closed hsealed.closed
  refine { hsealed with idle := hidle, sent_away := ?_, roused := ?_, emptied := ?_ }
  · exact Desk.step_look_of_closed hsealed.closed
  · intro hannounced caller
    have hroused := Desk.roused_of_reachable hdesk hsealed.closed
    rw [hannounced] at hroused
    exact hroused.resolve_left Bool.false_ne_true caller
  · intro hheld hreserved
    have hoccupied : later.desk.occupied idOf = [] := by
      have hperm := Desk.occupied_perm idOf later.desk
      rw [hheld, hreserved] at hperm
      exact hperm.eq_nil
    have hcreated := hbalanced.created_eq
    have hwhole := (traced_of_reachable hreached).whole
    rw [hidle, hoccupied, hreserved] at hwhole
    rw [hidle, hoccupied] at hcreated
    have hgone : later.gone ~ later.made := by simpa using hwhole
    refine ⟨hcreated, hgone, fun hdoomed => ?_⟩
    rwa [gone, hdoomed, nil_append] at hgone

/-- A pool for three contexts has just been closed: one was idle, one is held and one is
being made, and the caller who parked for one is still to be told. -/
def justClosed : Ledger Nat where
  desk :=
    { pool := ⟨3, [], 2, 3, true⟩
      callers :=
        [⟨1000, 1000, .returned⟩, ⟨1000, 1000, .holding 1⟩, ⟨1000, 1000, .building 2⟩,
          ⟨1000, 1000, .parked⟩]
      notices := 1
      closing := true }
  made := [1, 0]
  doomed := [0]
  tornDown := []

/-- The caller who parked is refused, and the three contexts are torn down, the last one
long after the pool was closed. -/
theorem drained_of_justClosed :
    Reachable id 3 justClosed ∧ justClosed.desk.pool.closed = true ∧
      ∃ later : Ledger Nat, Reaches id justClosed later ∧ Drained id justClosed later ∧
        later.desk.phase? 3 = some (.refused .poolShutdown) ∧
        later.desk.pool.created = 0 ∧ later.tornDown = [2, 1, 0] := by
  have hreach : Reachable id 3 justClosed :=
    ((((((((((((Relation.ReflTransGen.refl.tail
      (.act (.arrive 0 1000) rfl trivial)).tail
      (.act (.arrive 0 1000) rfl trivial)).tail
      (.act (.arrive 0 1000) rfl trivial)).tail
      (.act (.arrive 0 1000) rfl trivial)).tail
      (.act (.look 0) rfl trivial)).tail
      (.act (.build 0 (.ok 0)) rfl rfl)).tail
      (.act (.look 1) rfl trivial)).tail
      (.act (.build 1 (.ok 1)) rfl rfl)).tail
      (.act (.look 2) rfl trivial)).tail
      (.act (.look 3) rfl trivial)).tail
      (.act (.release 0) rfl trivial)).tail
      (.act .shutdown rfl trivial))
  have hrefused : Reaches id justClosed _ :=
    ((Relation.ReflTransGen.refl.tail
      (.act (.notify (some 3)) rfl trivial)).tail
      (.act (.look 3) rfl trivial))
  have hreturned : Reaches id justClosed _ :=
    (((hrefused.tail
      (.act (.build 2 (.ok 2)) rfl rfl)).tail
      (.act (.release 1) rfl trivial)).tail
      (.act (.release 2) rfl trivial))
  have hlater : Reaches id justClosed _ :=
    (((hreturned.tail
      (.tearDown (.tail _ (.tail _ (.head _))))).tail
      (.tearDown (.tail _ (.head _)))).tail
      (.tearDown (.head _)))
  exact ⟨hreach, rfl, _, hlater, (drained_of_reachable id 3 hreach).2 rfl hlater, rfl, rfl, rfl⟩

end Ledger

end ServerRender.Pool
