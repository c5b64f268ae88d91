import ServerRender.Proofs.Pool.Shutdown
import ServerRender.Proofs.Renderer.Freshness
import ServerRender.Proofs.Renderer.Generations

/-!
# Installations that are replaced

Each pool of a session runs as a desk of its own, and nothing but its cache and its pool
ever changes of an installation.  So an installation that is in place is the one that was
built from its setup, however long ago, and one that has been replaced has a pool that was
closed at that moment and serves nobody who comes later.  The calls that start later enter
later installations.
-/

namespace ServerRender

variable {World Environment : Type} {engine : Engine World Environment}

/-- The later state of an installation has come about from the earlier one: its pool has
gone on by turns of its own, and it has kept all that it was built with. -/
structure Installation.Evolves (earlier later : Installation Environment) : Prop where
  template_eq : later.template = earlier.template
  mode_eq : later.mode = earlier.mode
  millis_eq : later.millis = earlier.millis
  library_eq : later.cache.coreLibrary = earlier.cache.coreLibrary
  turned : Relation.ReflTransGen (Pool.Desk.Turn ExecutionContext.id) earlier.desk later.desk

namespace Installation.Evolves

variable {earlier middle later : Installation Environment}

theorem refl (installation : Installation Environment) :
    installation.Evolves installation :=
  ⟨rfl, rfl, rfl, rfl, .refl⟩

theorem trans (hearlier : earlier.Evolves middle) (hlater : middle.Evolves later) :
    earlier.Evolves later :=
  ⟨hlater.template_eq.trans hearlier.template_eq, hlater.mode_eq.trans hearlier.mode_eq,
    hlater.millis_eq.trans hearlier.millis_eq, hlater.library_eq.trans hearlier.library_eq,
    hearlier.turned.trans hlater.turned⟩

theorem setDesk (installation : Installation Environment)
    {desk : Pool.Desk (ExecutionContext Environment)}
    (hturn : Pool.Desk.Turn ExecutionContext.id installation.desk desk) :
    installation.Evolves { installation with desk } :=
  ⟨rfl, rfl, rfl, rfl, .single hturn⟩

end Installation.Evolves

namespace Renderer

variable {renderer next : Renderer World Environment} {place : Nat}
variable {installation : Installation Environment}

def Carries (renderer next : Renderer World Environment) : Prop :=
  ∀ (place : Nat) (installation : Installation Environment),
    renderer.installations[place]? = some installation →
    ∃ later, next.installations[place]? = some later ∧ installation.Evolves later

theorem Carries.of_eq (hsame : next.installations = renderer.installations) :
    renderer.Carries next :=
  fun _ installation hinstallation => ⟨installation, hsame ▸ hinstallation, .refl installation⟩

theorem Carries.modify {index : Nat} {change : Installation Environment → Installation Environment}
    (hchange : ∀ installation, renderer.installations[index]? = some installation →
      installation.Evolves (change installation))
    (hnext : next.installations = renderer.installations.modify index change) :
    renderer.Carries next := by
  intro place installation hinstallation
  rw [hnext, List.getElem?_modify, hinstallation]
  by_cases hplace : index = place
  · subst hplace
    exact ⟨change installation, by simp, hchange installation hinstallation⟩
  · exact ⟨installation, by simp [hplace], .refl installation⟩

theorem Carries.setDesk {index : Nat} {before : Installation Environment}
    {desk : Pool.Desk (ExecutionContext Environment)}
    (hbefore : renderer.installations[index]? = some before)
    (hturn : Pool.Desk.Turn ExecutionContext.id before.desk desk) :
    renderer.Carries (renderer.setDesk index desk) := by
  refine .modify (fun installation hinstallation => ?_) rfl
  obtain rfl := Option.some.inj (hbefore.symm.trans hinstallation)
  exact .setDesk before hturn

end Renderer

/-- A move that gives a context back is a step. -/
theorem Pool.Desk.turn_of_release {Context : Type} {idOf : Context → Nat}
    {desk next : Pool.Desk Context} {caller : Nat} (hmove : desk.Move (.release caller) next) :
    Pool.Desk.Turn idOf desk next := by
  cases hmove with
  | @release _ context hphase =>
      refine .act (.release caller) (?_ : _ = some (_, [])) trivial
      simp only [step, hphase]

def ChangeStage.place? : ChangeStage → Option Nat
  | .entered place => some place
  | .writing place _ _ _ => some place
  | .done place _ => some place
  | _ => none

namespace Session

variable {session next later : Session World Environment} {action : Action World Environment}

theorem carries_of_stride (hattended : session.Attended) {job : Nat}
    {before after : Job Environment} {events : List Log.Event}
    {renderer : Renderer World Environment} (hbefore : session.renderer.jobs[job]? = some before)
    (hstride : Renderer.Stride engine session.renderer job before after renderer events) :
    session.renderer.Carries renderer := by
  cases hstride with
  | @arrive call retried index installation bundle time hinstallation hget =>
      exact Renderer.Carries.setDesk hinstallation
        (.act (.arrive time installation.millis) rfl trivial)
  | @endWork call retried attempt reply installation hgates hinstallation =>
      obtain ⟨context, hphase, hcontinues⟩ := hattended job _ attempt reply hbefore rfl
      rw [Renderer.phaseOf?_of_installation hinstallation] at hphase
      exact Renderer.Carries.setDesk hinstallation (.work hphase hcontinues.id_eq)
  | leave hinstallation hmove =>
      exact Renderer.Carries.setDesk hinstallation (Pool.Desk.turn_of_release hmove)
  | _ => exact .of_eq rfl

/-- Nothing that happens in a session replaces an installation by another one in its
place, or changes what it was built with. -/
theorem carries_of_turn (hattended : session.Attended)
    (hturn : Turn engine session action next) : session.renderer.Carries next.renderer := by
  cases hturn with
  | work hstep =>
      obtain ⟨before, after, hbefore, hstride⟩ := Renderer.exists_stride_of_step hstep
      exact carries_of_stride hattended hbefore hstride
  | serve hinstallation hserves hstep =>
      exact .setDesk hinstallation (.act _ hstep (numbers_of_serves hserves))
  | publish hchange hinstallation harchive =>
      refine .modify (fun installation hfound => ?_) rfl
      obtain rfl := Option.some.inj (hinstallation.symm.trans hfound)
      exact ⟨rfl, rfl, rfl, rfl, .refl⟩
  | install hrenewal =>
      have hshut : session.renderer.Carries session.renderer.shutdown :=
        .modify (fun installation _ => .setDesk installation (.act .shutdown rfl trivial)) rfl
      intro place installation hinstallation
      obtain ⟨later, hlater, hevolves⟩ := hshut place installation hinstallation
      have hlt := (List.getElem?_eq_some_iff.1 hlater).1
      exact ⟨later, (List.getElem?_append_left hlt).trans hlater, hevolves⟩
  | _ => exact .of_eq rfl

theorem carries_of_reaches (hreach : Reachable engine session)
    (hlater : Reaches engine session later) : session.renderer.Carries later.renderer := by
  induction hlater with
  | refl => exact .of_eq rfl
  | tail hbefore hturn ih =>
      obtain ⟨action, hturn⟩ := hturn
      intro place installation hinstallation
      obtain ⟨between, hbetween, hevolves⟩ := ih place installation hinstallation
      obtain ⟨after, hafter, hturned⟩ :=
        carries_of_turn (attended_of_reachable (hreach.trans hbefore)) hturn place between hbetween
      exact ⟨after, hafter, hevolves.trans hturned⟩

/-- The pools of all installations but the current one are closed. -/
def Retired (session : Session World Environment) : Prop :=
  ∀ (place : Nat) (installation : Installation Environment),
    session.renderer.installations[place]? = some installation →
    place + 1 < session.renderer.installations.length → installation.desk.pool.closed = true

theorem closed_shutdown {Context : Type} (desk : Pool.Desk Context) :
    desk.shutdown.pool.closed = true := by
  simp only [Pool.Desk.shutdown, Pool.shutdown]
  split
  · next hclosed => exact hclosed
  · rfl

/-- A turn puts no installation in place, or it replaces the current one by one that was
built. -/
theorem installations_cases_of_turn (hturn : Turn engine session action next) :
    next.renderer.installations.length = session.renderer.installations.length ∨
      ∃ (index : Nat) (fresh : Installation Environment) (archive : Archive),
        session.renewals[index]? = some (.built fresh archive) ∧
        next.renderer = session.renderer.install fresh := by
  cases hturn with
  | work hstep =>
      obtain ⟨before, after, -, hstride⟩ := Renderer.exists_stride_of_step hstep
      have hlength := congrArg List.length hstride.templates_eq
      exact .inl (by simpa [Renderer.templates] using hlength)
  | serve hinstallation hserves hstep => exact .inl (List.length_modify _ _ _)
  | publish hchange hinstallation harchive => exact .inl (List.length_modify _ _ _)
  | install hrenewal => exact .inr ⟨_, _, _, hrenewal, rfl⟩
  | _ => exact .inl rfl

theorem length_installations_le_of_turn (hturn : Turn engine session action next) :
    session.renderer.installations.length ≤ next.renderer.installations.length := by
  rcases installations_cases_of_turn hturn with hlength | ⟨_, fresh, _, -, hinstall⟩
  · exact Nat.le_of_eq hlength.symm
  · rw [hinstall]
    simp [Renderer.install, Renderer.shutdown, Renderer.updateCurrent]

/-- There is always a current installation. -/
theorem length_installations_pos (hreach : Reachable engine session) :
    0 < session.renderer.installations.length := by
  refine hreach.induction
    (motive := fun session => 0 < session.renderer.installations.length) ?_ ?_
  · intro world setup sources first hstart
    obtain ⟨installation, -, rfl⟩ := start_eq_ok hstart
    exact Nat.one_pos
  · intro session action next _ hturn hpos
    exact Nat.lt_of_lt_of_le hpos (length_installations_le_of_turn hturn)

/-- Pools stay closed, and an installation is only replaced when its pool is closed. -/
theorem retired_of_turn (hattended : session.Attended) (hretired : session.Retired)
    (hturn : Turn engine session action next) : next.Retired := by
  have hcarries := carries_of_turn hattended hturn
  have hkept : ∀ (place : Nat) (after : Installation Environment),
      next.renderer.installations[place]? = some after →
      place + 1 < session.renderer.installations.length → after.desk.pool.closed = true := by
    intro place after hafter hlt
    have hbefore := List.getElem?_eq_getElem (Nat.lt_of_succ_lt hlt)
    obtain ⟨later, hlater, hevolves⟩ := hcarries place _ hbefore
    obtain rfl := Option.some.inj (hlater.symm.trans hafter)
    exact (Pool.Desk.sealed_of_turns (hretired place _ hbefore hlt) hevolves.turned).closed
  intro place after hafter hlt
  rcases installations_cases_of_turn hturn with hlength | ⟨_, fresh, _, -, hinstall⟩
  · exact hkept place after hafter (hlength ▸ hlt)
  · by_cases hcurrent : place + 1 < session.renderer.installations.length
    · exact hkept place after hafter hcurrent
    · rw [hinstall] at hafter hlt
      simp only [Renderer.install, Renderer.shutdown, Renderer.updateCurrent,
        List.length_append, List.length_modify, List.length_singleton] at hafter hlt
      have hplace : session.renderer.installations.length - 1 = place := by omega
      rw [List.getElem?_append_left (by simpa using Nat.lt_of_succ_lt_succ hlt),
        List.getElem?_modify] at hafter
      obtain ⟨before, -, rfl⟩ := Option.map_eq_some_iff.1 hafter
      rw [if_pos hplace]
      exact closed_shutdown before.desk

theorem retired_of_reachable (hreach : Reachable engine session) : session.Retired := by
  refine hreach.induction (motive := Retired) ?_ ?_
  · intro world setup sources first hstart
    obtain ⟨installation, -, rfl⟩ := start_eq_ok hstart
    intro place found _ hlt
    exact absurd hlt (by simp)
  · intro session action next hreach hturn hretired
    exact retired_of_turn (attended_of_reachable hreach) hretired hturn

/-- A pool that has been replaced is closed, and no context is left in it. -/
theorem idle_eq_of_replaced (hreach : Reachable engine session) {place : Nat}
    {installation : Installation Environment}
    (hinstallation : session.renderer.installations[place]? = some installation)
    (hplace : place + 1 < session.renderer.installations.length) :
    installation.desk.pool.closed = true ∧ installation.desk.pool.idle = [] := by
  have hclosed := retired_of_reachable hreach place installation hinstallation hplace
  have hbalanced := (numbered_of_reachable hreach).2 place _
    (Renderer.desk_of_installation hinstallation)
  exact ⟨hclosed, hbalanced.idle_of_closed hclosed⟩

/-! ## Calls that set the renderer up anew -/

/-- A setup is rejected for its template or its options, whatever the registry has. -/
theorem build_eq_error {setup : Setup} {sources : Sources} {error : RenderError}
    (hbuild : (Installation.build setup sources : Except RenderError (Installation Environment)) =
      .error error) (others : Sources) :
    (Installation.build setup others : Except RenderError (Installation Environment)) =
      .error error := by
  simp only [Installation.build, bind, Except.bind] at hbuild ⊢
  split at hbuild
  · exact hbuild
  · split at hbuild
    · exact hbuild
    · contradiction

theorem snapshot_of_turn (hturn : Turn engine session action next) {number : Nat}
    {sources : Sources} (hsnapshot : session.snapshots[number]? = some sources) :
    next.snapshots[number]? = some sources := by
  have hlt := (List.getElem?_eq_some_iff.1 hsnapshot).1
  cases hturn with
  | read => exact (List.getElem?_append_left hlt).trans hsnapshot
  | fail => exact (List.getElem?_append_left hlt).trans hsnapshot
  | build => exact (List.getElem?_append_left hlt).trans hsnapshot
  | _ => exact hsnapshot

/-- An installation as it is built from a setup and a snapshot, with its archive. -/
structure Builds (session : Session World Environment) (setup : Setup)
    (fresh : Installation Environment) (archive : Archive) : Prop where
  exists_snapshot : ∃ snapshot sources, session.snapshots[snapshot]? = some sources ∧
    Installation.build setup sources = .ok fresh ∧
    archive = CodeCache.firstArchive setup.coreLibrary snapshot sources

structure Hosts (session : Session World Environment) (place : Nat)
    (fresh : Installation Environment) (archive : Archive) : Prop where
  evolves : ∃ installation, session.renderer.installations[place]? = some installation ∧
    fresh.Evolves installation
  extends_archive : ∃ later, session.archives[place]? = some later ∧ later.Extends archive

/-- How far a call has come that sets the renderer up anew. -/
inductive Progress (session : Session World Environment) (setup : Setup) :
    Renewal Environment → Prop
  | ordered : Progress session setup (.ordered setup)
  | built {fresh : Installation Environment} {archive : Archive}
      (hbuilds : session.Builds setup fresh archive) :
      Progress session setup (.built fresh archive)
  | rejected {error : RenderError}
      (hrejects : ∀ sources, (Installation.build setup sources :
        Except RenderError (Installation Environment)) = .error error) :
      Progress session setup (.rejected error)
  | installed {place : Nat} {fresh : Installation Environment} {archive : Archive}
      (hbuilds : session.Builds setup fresh archive)
      (hhosts : session.Hosts place fresh archive) :
      Progress session setup (.installed place)

theorem Builds.turn {setup : Setup} {fresh : Installation Environment} {archive : Archive}
    (hbuilds : session.Builds setup fresh archive) (hturn : Turn engine session action next) :
    next.Builds setup fresh archive := by
  obtain ⟨snapshot, sources, hsnapshot, hbuild, harchive⟩ := hbuilds.exists_snapshot
  exact ⟨snapshot, sources, snapshot_of_turn hturn hsnapshot, hbuild, harchive⟩

theorem Hosts.turn {place : Nat} {fresh : Installation Environment} {archive : Archive}
    (hhosts : session.Hosts place fresh archive) (hattended : session.Attended)
    (hturn : Turn engine session action next) : next.Hosts place fresh archive where
  evolves := by
    obtain ⟨installation, hinstallation, hevolves⟩ := hhosts.evolves
    obtain ⟨after, hafter, hturned⟩ :=
      carries_of_turn hattended hturn place installation hinstallation
    exact ⟨after, hafter, hevolves.trans hturned⟩
  extends_archive := by
    obtain ⟨earlier, hearlier, hextends⟩ := hhosts.extends_archive
    obtain ⟨later, hlater, hmore⟩ := archive_of_turn hturn hearlier
    exact ⟨later, hlater, hmore.trans hextends⟩

theorem Progress.turn {setup : Setup} {renewal : Renewal Environment}
    (hprogress : session.Progress setup renewal) (hattended : session.Attended)
    (hturn : Turn engine session action next) : next.Progress setup renewal := by
  cases hprogress with
  | ordered => exact .ordered
  | built hbuilds => exact .built (hbuilds.turn hturn)
  | rejected hrejects => exact .rejected hrejects
  | installed hbuilds hhosts => exact .installed (hbuilds.turn hturn) (hhosts.turn hattended hturn)

theorem Progress.reaches {setup : Setup} {renewal : Renewal Environment}
    (hprogress : session.Progress setup renewal) (hreach : Reachable engine session)
    (hlater : Reaches engine session later) : later.Progress setup renewal := by
  induction hlater with
  | refl => exact hprogress
  | tail hbefore hturn ih =>
      obtain ⟨action, hturn⟩ := hturn
      exact ih.turn (attended_of_reachable (hreach.trans hbefore)) hturn

/-- A call goes on by its own turns, and stays where it is under those of others. -/
theorem progress_of_turn (hfiled : session.Filed) (hattended : session.Attended)
    (hturn : Turn engine session action next) {index : Nat} {setup : Setup}
    (hprogress : ∃ renewal, session.renewals[index]? = some renewal ∧
      session.Progress setup renewal) :
    ∃ renewal, next.renewals[index]? = some renewal ∧ next.Progress setup renewal := by
  obtain ⟨renewal, hrenewal, hprogress⟩ := hprogress
  have hlt := (List.getElem?_eq_some_iff.1 hrenewal).1
  have hkept := hprogress.turn hattended hturn
  cases hturn with
  | order ordered => exact ⟨renewal, (List.getElem?_append_left hlt).trans hrenewal, hkept⟩
  | @build other ordered fresh hordered hbuild =>
      by_cases hother : other = index
      · subst hother
        obtain rfl := Option.some.inj (hrenewal.symm.trans hordered)
        cases hprogress with
        | ordered =>
            refine ⟨_, List.getElem?_set_self hlt, .built ⟨_, _, ?_, hbuild, rfl⟩⟩
            exact List.getElem?_concat_length
      · exact ⟨renewal, (List.getElem?_set_ne hother).trans hrenewal, hkept⟩
  | @reject other ordered error hordered hbuild =>
      by_cases hother : other = index
      · subst hother
        obtain rfl := Option.some.inj (hrenewal.symm.trans hordered)
        cases hprogress with
        | ordered => exact ⟨_, List.getElem?_set_self hlt, .rejected (build_eq_error hbuild)⟩
      · exact ⟨renewal, (List.getElem?_set_ne hother).trans hrenewal, hkept⟩
  | @install other fresh archive hbuilt =>
      by_cases hother : other = index
      · subst hother
        obtain rfl := Option.some.inj (hrenewal.symm.trans hbuilt)
        cases hkept with
        | built hbuilds =>
            have hplaced : (session.renderer.install fresh).installations[
                session.renderer.installations.length]? = some fresh := by
              simp [Renderer.install, Renderer.shutdown, Renderer.updateCurrent]
            have harchive : (session.archives ++ [archive])[
                session.renderer.installations.length]? = some archive := by
              rw [← hfiled.length_archives]
              exact List.getElem?_concat_length
            exact ⟨_, List.getElem?_set_self hlt, .installed hbuilds
              ⟨⟨fresh, hplaced, .refl fresh⟩, archive, harchive, .refl archive⟩⟩
      · exact ⟨renewal, (List.getElem?_set_ne hother).trans hrenewal, hkept⟩
  | _ => exact ⟨renewal, hrenewal, hkept⟩

theorem progress_of_reaches (hreach : Reachable engine session) {index : Nat} {setup : Setup}
    (hordered : session.renewals[index]? = some (.ordered setup))
    (hlater : Reaches engine session later) :
    ∃ renewal, later.renewals[index]? = some renewal ∧ later.Progress setup renewal := by
  induction hlater with
  | refl => exact ⟨_, hordered, .ordered⟩
  | tail hbefore hturn ih =>
      obtain ⟨action, hturn⟩ := hturn
      have hbetween := hreach.trans hbefore
      exact progress_of_turn (filed_of_reachable hbetween) (attended_of_reachable hbetween) hturn ih

/-- The calls from some numbers on have not entered an installation before `place`. -/
structure Beyond (place firstJob firstChange : Nat) (session : Session World Environment) :
    Prop where
  place_lt : place < session.renderer.installations.length
  entered : ∀ {job index : Nat} {state : Job Environment}, firstJob ≤ job →
    session.renderer.jobs[job]? = some state → state.stage = .entered index → place ≤ index
  begun : ∀ {job : Nat} {trace : Trace} {attempt : Attempt}, firstJob ≤ job →
    session.traces[job]? = some trace → attempt ∈ trace.attempts →
    place ≤ attempt.installation
  reported : ∀ {index other : Nat} {change : Change}, firstChange ≤ index →
    session.changes[index]? = some change → change.stage.place? = some other → place ≤ other

namespace Beyond

variable {place firstJob firstChange : Nat}

theorem entered_of_turn (hbeyond : Beyond place firstJob firstChange session)
    (hturn : Turn engine session action next) {job index : Nat} {state : Job Environment}
    (hfirst : firstJob ≤ job) (hjob : next.renderer.jobs[job]? = some state)
    (hentered : state.stage = .entered index) : place ≤ index := by
  rcases job_cases_of_turn hturn hjob with
    ⟨-, hold⟩ | ⟨-, hnew⟩ | ⟨time, before, events, -, -, hstride⟩
  · exact hbeyond.entered hfirst hold hentered
  · rw [hnew] at hentered
    contradiction
  · -- A call enters the last installation, which is not before this one.
    have hlt := hbeyond.place_lt
    have hindex := hstride.index_of_entered hentered
    omega

theorem begun_of_turn (hbeyond : Beyond place firstJob firstChange session)
    (hturn : Turn engine session action next) {job : Nat} {trace : Trace} {attempt : Attempt}
    (hfirst : firstJob ≤ job) (htrace : next.traces[job]? = some trace)
    (hmem : attempt ∈ trace.attempts) : place ≤ attempt.installation := by
  rcases attempt_cases_of_turn hturn htrace hmem with
    ⟨earlier, hearlier, hold⟩ | ⟨time, before, after, events, -, hbefore, hstride, hcheckout⟩
  · exact hbeyond.begun hfirst hearlier hold
  · obtain ⟨installation, hentered, -⟩ := hstride.exists_installation_of_checkout hcheckout
    exact hbeyond.entered hfirst hbefore hentered

theorem reported_of_turn (hbeyond : Beyond place firstJob firstChange session)
    (hturn : Turn engine session action next) {index other : Nat} {change : Change}
    (hfirst : firstChange ≤ index) (hchange : next.changes[index]? = some change)
    (hplace : change.stage.place? = some other) : place ≤ other := by
  -- Whatever a change goes on to, it stays with the installation that it has entered.
  have hkept : ∀ {number : Nat} {before after : Change}, session.changes[number]? = some before →
      (session.changes.set number after)[index]? = some change →
      (∀ entered, after.stage.place? = some entered → before.stage.place? = some entered) →
      place ≤ other := by
    intro number before after hbefore hfound hstays
    rcases getElem?_set_cases hfound with ⟨rfl, rfl⟩ | ⟨-, hold⟩
    · exact hbeyond.reported hfirst hbefore (hstays other hplace)
    · exact hbeyond.reported hfirst hold hplace
  cases hturn with
  | report component =>
      rcases getElem?_append_cases hchange with hold | ⟨-, rfl⟩
      · exact hbeyond.reported hfirst hold hplace
      · contradiction
  | enter hentering =>
      rcases getElem?_set_cases hchange with ⟨rfl, rfl⟩ | ⟨-, hold⟩
      · have hlt := hbeyond.place_lt
        have hother := Option.some.inj hplace
        omega
      · exact hbeyond.reported hfirst hold hplace
  | read hbefore hinstallation hfree hdue => exact hkept hbefore hchange fun _ h => h
  | fail hbefore hinstallation hfree hdue => exact hkept hbefore hchange fun _ h => nomatch h
  | publish hbefore hinstallation harchive => exact hkept hbefore hchange fun _ h => h
  | finish hbefore => exact hkept hbefore hchange fun _ h => h
  | _ => exact hbeyond.reported hfirst hchange hplace

theorem turn (hbeyond : Beyond place firstJob firstChange session)
    (hturn : Turn engine session action next) : Beyond place firstJob firstChange next where
  place_lt := Nat.lt_of_lt_of_le hbeyond.place_lt (length_installations_le_of_turn hturn)
  entered := hbeyond.entered_of_turn hturn
  begun := hbeyond.begun_of_turn hturn
  reported := hbeyond.reported_of_turn hturn

end Beyond

theorem beyond_of_reaches {place : Nat} (hplace : place < session.renderer.installations.length)
    (hlength : session.traces.length = session.renderer.jobs.length)
    (hlater : Reaches engine session later) :
    Beyond place session.renderer.jobs.length session.changes.length later := by
  induction hlater with
  | refl =>
      refine ⟨hplace, ?_, ?_, ?_⟩
      · intro job index state hfirst hjob
        exact absurd (List.getElem?_eq_some_iff.1 hjob).1 (Nat.not_lt.2 hfirst)
      · intro job trace attempt hfirst htrace
        exact absurd (hlength ▸ (List.getElem?_eq_some_iff.1 htrace).1) (Nat.not_lt.2 hfirst)
      · intro index other change hfirst hchange
        exact absurd (List.getElem?_eq_some_iff.1 hchange).1 (Nat.not_lt.2 hfirst)
  | tail _ hturn ih =>
      obtain ⟨action, hturn⟩ := hturn
      exact ih.turn hturn

end Session

end ServerRender
