import ServerRender.Proofs.Renderer.Confinement
import ServerRender.Proofs.Renderer.Handover

/-!
# Setting a renderer up anew

A call that sets the renderer up anew builds an installation, closes the pool of the
current one under the lock, and puts its own in place.  Calls go on in between, pools may
be shut down for good, and other calls of the same kind may overlap with this one.  Each
of these steps is a turn of a session, or leaves it where a turn would, so that all that
is known of sessions holds here too.  A call whose setup is rejected leaves no trace: the
same steps of all the others lead to the same state without it.
-/

namespace ServerRender

variable {World Environment : Type} {engine : Engine World Environment}

theorem Pool.Desk.shutdown_of_closed {Context : Type} {desk : Pool.Desk Context}
    (hclosed : desk.pool.closed = true) : desk.shutdown = desk := by
  simp [shutdown, Pool.shutdown, hclosed]

namespace Renderer

variable {renderer : Renderer World Environment}

def CurrentClosed (renderer : Renderer World Environment) : Prop :=
  ∀ installation, renderer.installations[renderer.installations.length - 1]? =
    some installation → installation.desk.pool.closed = true

/-- An installation that is built is put in place of one whose pool is closed. -/
theorem install_eq_put_of_closed (hclosed : renderer.CurrentClosed)
    (fresh : Installation Environment) : renderer.install fresh = renderer.put fresh := by
  have hshutdown : renderer.shutdown = renderer := by
    have hsame : renderer.shutdown.installations = renderer.installations := by
      refine List.ext_getElem? fun place => ?_
      simp only [shutdown, updateCurrent, List.getElem?_modify]
      by_cases hplace : renderer.installations.length - 1 = place
      · cases hinstallation : renderer.installations[place]? with
        | none => rfl
        | some installation =>
            have hdesk := Pool.Desk.shutdown_of_closed
              (hclosed installation (hplace ▸ hinstallation))
            simp [hplace, hdesk]
      · cases renderer.installations[place]? <;> simp [hplace]
    exact congrArg (fun installations => { renderer with installations }) hsame
  rw [install_eq_put, hshutdown]

theorem setDesk_shutdown {installation : Installation Environment}
    (hinstallation : renderer.installations[renderer.installations.length - 1]? =
      some installation) :
    renderer.setDesk (renderer.installations.length - 1) installation.desk.shutdown =
      renderer.shutdown := by
  have hsame : (renderer.setDesk (renderer.installations.length - 1)
      installation.desk.shutdown).installations = renderer.shutdown.installations := by
    refine List.ext_getElem? fun place => ?_
    simp only [setDesk, shutdown, updateCurrent, List.getElem?_modify]
    by_cases hplace : renderer.installations.length - 1 = place
    · rw [← hplace, hinstallation]
      simp
    · cases renderer.installations[place]? <;> simp [hplace]
  exact congrArg (fun installations => { renderer with installations }) hsame

theorem currentClosed_shutdown (renderer : Renderer World Environment) :
    renderer.shutdown.CurrentClosed := by
  intro installation hinstallation
  rw [length_installations_shutdown] at hinstallation
  simp only [shutdown, updateCurrent, List.getElem?_modify] at hinstallation
  obtain ⟨before, -, rfl⟩ := Option.map_eq_some_iff.1 hinstallation
  simpa using Session.closed_shutdown before.desk

end Renderer

namespace Handover

variable {handover next between later : Handover World Environment}

/-- What may happen next, the shutdown of a pool for good included. -/
inductive Step (engine : Engine World Environment) (handover : Handover World Environment) :
    Handover World Environment → Prop
  | turn {closings : Nat} {next : Handover World Environment}
      (hturn : Turn engine handover closings next) : Step engine handover next
  | shutDown {place : Nat} {installation : Installation Environment}
      (hinstallation : handover.session.renderer.installations[place]? = some installation) :
      Step engine handover
        { handover with
          session :=
            { handover.session with
              renderer := handover.session.renderer.setDesk place installation.desk.shutdown } }

def Leads (engine : Engine World Environment) :
    Handover World Environment → Handover World Environment → Prop :=
  Relation.ReflTransGen (Step engine)

/-- The handovers that any renderer can come to, shut down or not. -/
def Attainable (engine : Engine World Environment) (handover : Handover World Environment) :
    Prop :=
  ∃ world setup sources first, Session.start world setup sources = .ok first ∧
    Leads engine ⟨first, none⟩ handover

theorem Attainable.trans {handover later : Handover World Environment}
    (hreach : Attainable engine handover) (hleads : Leads engine handover later) :
    Attainable engine later := by
  obtain ⟨world, setup, sources, first, hstart, hfirst⟩ := hreach
  exact ⟨world, setup, sources, first, hstart, Relation.ReflTransGen.trans hfirst hleads⟩

def Locked (handover : Handover World Environment) : Prop :=
  handover.replacing ≠ none → handover.session.renderer.CurrentClosed

theorem currentClosed_of_carries {renderer after : Renderer World Environment}
    (hcarries : renderer.Carries after) (hclosed : renderer.CurrentClosed)
    (hlength : after.installations.length = renderer.installations.length)
    (hpos : 0 < renderer.installations.length) : after.CurrentClosed := by
  intro installation hinstallation
  rw [hlength] at hinstallation
  have hlt : renderer.installations.length - 1 < renderer.installations.length := by omega
  have hbefore := List.getElem?_eq_getElem hlt
  obtain ⟨found, hfound, hevolves⟩ := hcarries _ _ hbefore
  obtain rfl := Option.some.inj (hfound.symm.trans hinstallation)
  exact (Pool.Desk.sealed_of_turns (hclosed _ hbefore) hevolves.turned).closed

/-- Every step is a turn of the session. -/
theorem turn_of_step (hreach : Session.Reachable engine handover.session)
    (hlocked : handover.Locked) (hstep : Step engine handover next) :
    (∃ action, Session.Turn engine handover.session action next.session) ∧ next.Locked := by
  have hpos : 0 < handover.session.renderer.installations.length :=
    Session.length_installations_pos hreach
  have hattended := Session.attended_of_reachable hreach
  cases hstep with
  | turn hturn =>
      cases hturn with
      | act action hturn hkeeps hlock =>
          refine ⟨⟨action, hturn⟩, fun hreplacing => ?_⟩
          exact currentClosed_of_carries (Session.carries_of_turn hattended hturn)
            (hlocked hreplacing) (Session.length_installations_of_turn hturn hkeeps) hpos
      | close index hfree hrenewal =>
          refine ⟨?_, fun _ => Renderer.currentClosed_shutdown _⟩
          have hlt : handover.session.renderer.installations.length - 1 <
              handover.session.renderer.installations.length := by omega
          have hcurrent := List.getElem?_eq_getElem hlt
          have hserve : Session.Turn engine handover.session (.serve _ .shutdown) _ :=
            .serve hcurrent trivial rfl
          rw [Renderer.setDesk_shutdown hcurrent] at hserve
          exact ⟨_, hserve⟩
      | put index hreplacing hrenewal =>
          refine ⟨?_, fun hreplaced => absurd rfl hreplaced⟩
          have hclosed := hlocked (by simp [hreplacing])
          have hinstall : Session.Turn engine handover.session (.renew index) _ :=
            .install hrenewal
          rw [Renderer.install_eq_put_of_closed hclosed] at hinstall
          exact ⟨_, hinstall⟩
  | shutDown hinstallation =>
      have hserve : Session.Turn engine handover.session (.serve _ .shutdown) _ :=
        .serve hinstallation trivial rfl
      refine ⟨⟨_, hserve⟩, fun hreplacing => ?_⟩
      exact currentClosed_of_carries (Session.carries_of_turn hattended hserve)
        (hlocked hreplacing) (List.length_modify _ _ _) hpos

theorem reachable_of_leads (hreach : Session.Reachable engine handover.session)
    (hlocked : handover.Locked) (hleads : Leads engine handover later) :
    Session.Reaches engine handover.session later.session ∧ later.Locked := by
  induction hleads with
  | refl => exact ⟨.refl, hlocked⟩
  | tail _ hstep ih =>
      obtain ⟨hreaches, hlockedBetween⟩ := ih
      obtain ⟨hturn, hlockedNext⟩ := turn_of_step (hreach.trans hreaches) hlockedBetween hstep
      exact ⟨hreaches.tail hturn, hlockedNext⟩

/-- A renderer that is set up anew in two steps is a session. -/
theorem reachable_of_attainable (hreach : Attainable engine handover) :
    Session.Reachable engine handover.session ∧ handover.Locked := by
  obtain ⟨world, setup, sources, first, hstart, hleads⟩ := hreach
  have hfirst : Session.Reachable engine first := ⟨world, setup, sources, first, hstart, .refl⟩
  obtain ⟨hreaches, hlocked⟩ :=
    reachable_of_leads hfirst (fun hreplacing => absurd rfl hreplacing) hleads
  exact ⟨hfirst.trans hreaches, hlocked⟩

theorem reaches_of_leads (hreach : Attainable engine handover)
    (hleads : Leads engine handover later) :
    Session.Reaches engine handover.session later.session := by
  obtain ⟨hreachable, hlocked⟩ := reachable_of_attainable hreach
  exact (reachable_of_leads hreachable hlocked hleads).1

end Handover

/-! ## Calls that are rejected -/

namespace Session

variable {session next : Session World Environment} {action : Action World Environment}
variable {index : Nat} {setup : Setup} {error : RenderError}

def withRenewal (session : Session World Environment) (index : Nat)
    (renewal : Renewal Environment) : Session World Environment :=
  { session with renewals := session.renewals.set index renewal }

/-- A call that is rejected is not noticed by the others: whatever they do next they could
do just as well if it had not begun. -/
theorem exists_turn_of_withRenewal
    (hordered : session.renewals[index]? = some (.ordered setup))
    (hturn : Turn engine (session.withRenewal index (.rejected error)) action next) :
    ∃ other, Turn engine session action other ∧
      next = other.withRenewal index (.rejected error) ∧
      other.renewals[index]? = some (.ordered setup) := by
  have hlt := (List.getElem?_eq_some_iff.1 hordered).1
  have hothers : ∀ {place : Nat} {renewal : Renewal Environment},
      renewal ≠ .rejected error →
      (session.withRenewal index (.rejected error)).renewals[place]? = some renewal →
      index ≠ place ∧ session.renewals[place]? = some renewal := by
    intro place renewal hne hrenewal
    rcases getElem?_set_cases hrenewal with ⟨-, hsame⟩ | hold
    · exact absurd hsame.symm hne
    · exact hold
  cases hturn with
  | accept call => exact ⟨_, .accept call, rfl, hordered⟩
  | work hstep => exact ⟨_, .work hstep, rfl, hordered⟩
  | serve hinstallation hserves hstep =>
      exact ⟨_, .serve hinstallation hserves hstep, rfl, hordered⟩
  | edit sources => exact ⟨_, .edit sources, rfl, hordered⟩
  | disturb world => exact ⟨_, .disturb world, rfl, hordered⟩
  | report component => exact ⟨_, .report component, rfl, hordered⟩
  | enter hchange => exact ⟨_, .enter hchange, rfl, hordered⟩
  | read hchange hinstallation hfree hdue =>
      exact ⟨_, .read hchange hinstallation hfree hdue, rfl, hordered⟩
  | fail hchange hinstallation hfree hdue =>
      exact ⟨_, .fail hchange hinstallation hfree hdue, rfl, hordered⟩
  | publish hchange hinstallation harchive =>
      exact ⟨_, .publish hchange hinstallation harchive, rfl, hordered⟩
  | finish hchange => exact ⟨_, .finish hchange, rfl, hordered⟩
  | order other =>
      refine ⟨_, .order other, ?_, (List.getElem?_append_left hlt).trans hordered⟩
      simp [withRenewal, List.set_append_left _ _ hlt]
  | build hrenewal hbuild =>
      obtain ⟨hne, hbefore⟩ := hothers (by simp) hrenewal
      refine ⟨_, .build hbefore hbuild, ?_, (List.getElem?_set_ne hne.symm).trans hordered⟩
      simp [withRenewal, List.set_comm _ _ hne]
  | reject hrenewal hbuild =>
      obtain ⟨hne, hbefore⟩ := hothers (by simp) hrenewal
      refine ⟨_, .reject hbefore hbuild, ?_, (List.getElem?_set_ne hne.symm).trans hordered⟩
      simp [withRenewal, List.set_comm _ _ hne]
  | install hrenewal =>
      obtain ⟨hne, hbefore⟩ := hothers (by simp) hrenewal
      refine ⟨_, .install hbefore, ?_, (List.getElem?_set_ne hne.symm).trans hordered⟩
      simp [withRenewal, List.set_comm _ _ hne]

/-- A call that sets the renderer up anew stays where it is, or goes on by one step of its
own. -/
inductive RenewalStep (session : Session World Environment) (index : Nat)
    (before : Renewal Environment) (next : Session World Environment) : Prop
  | stays (hrenewal : next.renewals[index]? = some before)
  | builds {setup : Setup} {fresh : Installation Environment} {archive : Archive}
      (hbefore : before = .ordered setup)
      (hrenewal : next.renewals[index]? = some (.built fresh archive))
  | rejects {setup : Setup} {error : RenderError} (hbefore : before = .ordered setup)
      (hnext : next = session.withRenewal index (.rejected error))
  | installs {fresh : Installation Environment} {archive : Archive} {place : Nat}
      (hbefore : before = .built fresh archive)
      (hrenewal : next.renewals[index]? = some (.installed place))

theorem renewalStep_of_turn {before : Renewal Environment}
    (hbefore : session.renewals[index]? = some before)
    (hturn : Turn engine session action next) : session.RenewalStep index before next := by
  have hlt := (List.getElem?_eq_some_iff.1 hbefore).1
  cases hturn with
  | order other => exact .stays ((List.getElem?_append_left hlt).trans hbefore)
  | @build other ordered fresh hordered hbuild =>
      by_cases hother : other = index
      · subst hother
        obtain rfl := Option.some.inj (hbefore.symm.trans hordered)
        exact .builds rfl (List.getElem?_set_self hlt)
      · exact .stays ((List.getElem?_set_ne hother).trans hbefore)
  | @reject other ordered error hordered hbuild =>
      by_cases hother : other = index
      · subst hother
        obtain rfl := Option.some.inj (hbefore.symm.trans hordered)
        exact .rejects rfl rfl
      · exact .stays ((List.getElem?_set_ne hother).trans hbefore)
  | @install other fresh archive hbuilt =>
      by_cases hother : other = index
      · subst hother
        obtain rfl := Option.some.inj (hbefore.symm.trans hbuilt)
        exact .installs rfl (List.getElem?_set_self hlt)
      · exact .stays ((List.getElem?_set_ne hother).trans hbefore)
  | _ => exact .stays hbefore

theorem not_closes_of_ordered (hordered : session.renewals[index]? = some (.ordered setup)) :
    ¬ session.Closes (.renew index) := by
  rintro ⟨fresh, archive, hbuilt⟩
  exact nomatch hordered.symm.trans hbuilt

theorem closes_withRenewal (hordered : session.renewals[index]? = some (.ordered setup))
    (hcloses : session.Closes action) :
    (session.withRenewal index (.rejected error)).Closes action := by
  cases action with
  | serve place service => cases service <;> exact hcloses
  | renew other =>
      obtain ⟨fresh, archive, hbuilt⟩ := hcloses
      have hne : index ≠ other := by
        rintro rfl
        exact nomatch Option.some.inj (hordered.symm.trans hbuilt)
      exact ⟨fresh, archive, (List.getElem?_set_ne hne).trans hbuilt⟩
  | _ => exact hcloses

theorem readsCurrent_withRenewal {renewal : Renewal Environment}
    (hreads : session.ReadsCurrent action) :
    (session.withRenewal index renewal).ReadsCurrent action := by
  cases action <;> exact hreads

end Session

namespace Handover

variable {handover next between later : Handover World Environment}
variable {index : Nat} {setup : Setup} {error : RenderError}

def withRenewal (handover : Handover World Environment) (index : Nat)
    (renewal : Renewal Environment) : Handover World Environment :=
  { handover with session := handover.session.withRenewal index renewal }

/-- A step in which a call that sets the renderer up anew does not go on. -/
def Spares (engine : Engine World Environment) (index : Nat)
    (handover next : Handover World Environment) : Prop :=
  Step engine handover next ∧
    next.session.renewals[index]? = handover.session.renewals[index]?

theorem exists_step_of_withRenewal
    (hordered : handover.session.renewals[index]? = some (.ordered setup))
    (hstep : Step engine (handover.withRenewal index (.rejected error)) next) :
    ∃ other, Spares engine index handover other ∧
      next = other.withRenewal index (.rejected error) := by
  have hothers : ∀ {place : Nat} {fresh : Installation Environment} {archive : Archive},
      (handover.withRenewal index (.rejected error)).session.renewals[place]? =
        some (.built fresh archive) →
      index ≠ place ∧ handover.session.renewals[place]? = some (.built fresh archive) := by
    intro place fresh archive hrenewal
    rcases getElem?_set_cases hrenewal with ⟨-, hsame⟩ | hold
    · contradiction
    · exact hold
  cases hstep with
  | turn hturn =>
      cases hturn with
      | act action hturn hkeeps hlock =>
          obtain ⟨other, hother, rfl, hstill⟩ :=
            Session.exists_turn_of_withRenewal hordered hturn
          have hact : Turn engine handover 0 { handover with session := other } :=
            .act action hother (fun hcloses => hkeeps (Session.closes_withRenewal hordered hcloses))
              fun hreplacing hreads => hlock hreplacing (Session.readsCurrent_withRenewal hreads)
          exact ⟨_, ⟨.turn hact, hstill.trans hordered.symm⟩, rfl⟩
      | close place hfree hrenewal =>
          obtain ⟨-, hbefore⟩ := hothers hrenewal
          exact ⟨_, ⟨.turn (.close place hfree hbefore), rfl⟩, rfl⟩
      | put place hreplacing hrenewal =>
          obtain ⟨hne, hbefore⟩ := hothers hrenewal
          refine ⟨_, ⟨.turn (.put place hreplacing hbefore), List.getElem?_set_ne hne.symm⟩, ?_⟩
          simp [withRenewal, Session.withRenewal, List.set_comm _ _ hne]
  | shutDown hinstallation =>
      exact ⟨_, ⟨.shutDown hinstallation, rfl⟩, rfl⟩

/-- What a call that sets the renderer up anew has come to, and how all the others could
have come there without it as long as it has done nothing. -/
inductive Came (engine : Engine World Environment) (index : Nat)
    (handover later : Handover World Environment) : Prop
  | ordered {setup : Setup}
      (hrenewal : later.session.renewals[index]? = some (.ordered setup))
      (hspared : Relation.ReflTransGen (Spares engine index) handover later)
  | built {fresh : Installation Environment} {archive : Archive}
      (hrenewal : later.session.renewals[index]? = some (.built fresh archive))
  | rejected {setup : Setup} {error : RenderError} {other : Handover World Environment}
      (hspared : Relation.ReflTransGen (Spares engine index) handover other)
      (hrenewal : other.session.renewals[index]? = some (.ordered setup))
      (hlater : later = other.withRenewal index (.rejected error))
  | installed {place : Nat}
      (hrenewal : later.session.renewals[index]? = some (.installed place))

/-- A step by which a call is rejected changes nothing but the entry of this call. -/
theorem eq_withRenewal_of_step (hstep : Step engine handover next)
    (hordered : handover.session.renewals[index]? = some (.ordered setup))
    (hnext : next.session = handover.session.withRenewal index (.rejected error)) :
    next = handover.withRenewal index (.rejected error) := by
  have hlt := (List.getElem?_eq_some_iff.1 hordered).1
  have hrejected : next.session.renewals[index]? = some (.rejected error) := by
    rw [hnext]
    exact List.getElem?_set_self hlt
  cases hstep with
  | turn hturn =>
      cases hturn with
      | act action hturn hkeeps hlock =>
          exact congrArg (fun session => { handover with session }) hnext
      | close place hfree hrenewal => exact nomatch hordered.symm.trans hrejected
      | put place hreplacing hrenewal =>
          rcases getElem?_set_cases hrejected with ⟨-, hinstalled⟩ | ⟨-, hold⟩
          · contradiction
          · exact nomatch hordered.symm.trans hold
  | shutDown hinstallation => exact nomatch hordered.symm.trans hrejected

theorem came_of_step (hcame : Came engine index handover between)
    (hstep : Step engine between next)
    (hturn : ∃ action, Session.Turn engine between.session action next.session) :
    Came engine index handover next := by
  obtain ⟨action, hturn⟩ := hturn
  cases hcame with
  | ordered hrenewal hspared =>
      cases Session.renewalStep_of_turn hrenewal hturn with
      | stays hstill =>
          exact .ordered hstill (hspared.tail ⟨hstep, hstill.trans hrenewal.symm⟩)
      | builds hbefore hbuilt => exact .built hbuilt
      | rejects hbefore hnext =>
          exact .rejected hspared hrenewal (eq_withRenewal_of_step hstep hrenewal hnext)
      | installs hbefore hinstalled => contradiction
  | built hrenewal =>
      cases Session.renewalStep_of_turn hrenewal hturn with
      | stays hstill => exact .built hstill
      | builds hbefore hbuilt => contradiction
      | rejects hbefore hnext => contradiction
      | installs hbefore hinstalled => exact .installed hinstalled
  | rejected hspared hrenewal hlater =>
      subst hlater
      obtain ⟨other, hother, rfl⟩ := exists_step_of_withRenewal hrenewal hstep
      exact .rejected (hspared.tail hother) (hother.2.trans hrenewal) rfl
  | installed hrenewal =>
      cases Session.renewalStep_of_turn hrenewal hturn with
      | stays hstill => exact .installed hstill
      | builds hbefore hbuilt => contradiction
      | rejects hbefore hnext => contradiction
      | installs hbefore hinstalled => contradiction

theorem came_of_leads (hreach : Attainable engine handover)
    (hordered : handover.session.renewals[index]? = some (.ordered setup))
    (hleads : Leads engine handover later) : Came engine index handover later := by
  obtain ⟨hreachable, hlocked⟩ := reachable_of_attainable hreach
  induction hleads with
  | refl => exact .ordered hordered .refl
  | tail hbefore hstep ih =>
      obtain ⟨hreaches, hlockedBetween⟩ := reachable_of_leads hreachable hlocked hbefore
      exact came_of_step ih hstep
        (turn_of_step (hreachable.trans hreaches) hlockedBetween hstep).1

/-! ## All or nothing -/

/-- A call whose setup is rejected has left everything as it would be without it. -/
structure Undone (engine : Engine World Environment) (index : Nat) (setup : Setup)
    (error : RenderError) (handover later : Handover World Environment) : Prop where
  /-- The setup itself is at fault, whatever the registry has. -/
  rejects : ∀ sources, (Installation.build setup sources :
    Except RenderError (Installation Environment)) = .error error
  spared : ∃ other, Relation.ReflTransGen (Spares engine index) handover other ∧
    later = other.withRenewal index (.rejected error)

/-- A call has put the installation of its setup in place, and nothing that is older has a
part in what starts afterwards. -/
structure Superseded (setup : Setup) (place : Nat) (session later : Session World Environment) :
    Prop where
  /-- The installation at this place is the one that was built from the setup. -/
  hosts : ∃ fresh archive, later.Builds setup fresh archive ∧ later.Hosts place fresh archive
  /-- Every pool but that of the current installation is closed, with nothing idle. -/
  closed : ∀ old installation, later.renderer.installations[old]? = some installation →
    old + 1 < later.renderer.installations.length →
    installation.desk.pool.closed = true ∧ installation.desk.pool.idle = []
  /-- A pool that was replaced has served nobody since who had not got a context by then. -/
  sealed : ∀ old before after, old < place →
    session.renderer.installations[old]? = some before →
    later.renderer.installations[old]? = some after →
    Pool.Desk.Sealed ExecutionContext.id before.desk after.desk
  /-- The calls that have come since have entered this installation or a later one. -/
  beyond : Session.Beyond place session.renderer.jobs.length session.changes.length later

theorem undone_of_rejected (hreach : Attainable engine handover)
    (hordered : handover.session.renewals[index]? = some (.ordered setup))
    (hleads : Leads engine handover later)
    (hrejected : later.session.renewals[index]? = some (.rejected error)) :
    Undone engine index setup error handover later where
  rejects := by
    obtain ⟨renewal, hrenewal, hprogress⟩ := Session.progress_of_reaches
      (reachable_of_attainable hreach).1 hordered (reaches_of_leads hreach hleads)
    obtain rfl := Option.some.inj (hrejected.symm.trans hrenewal)
    cases hprogress with
    | rejected hrejects => exact hrejects
  spared := by
    cases came_of_leads hreach hordered hleads with
    | ordered hrenewal hspared => exact nomatch hrenewal.symm.trans hrejected
    | built hrenewal => exact nomatch hrenewal.symm.trans hrejected
    | @rejected _ found other hspared hrenewal hlater =>
        subst hlater
        have hlt := (List.getElem?_eq_some_iff.1 hrenewal).1
        have hfound : (other.withRenewal index (.rejected found)).session.renewals[index]? =
            some (.rejected found) := List.getElem?_set_self hlt
        obtain rfl := Renewal.rejected.inj (Option.some.inj (hfound.symm.trans hrejected))
        exact ⟨other, hspared, rfl⟩
    | installed hrenewal => exact nomatch hrenewal.symm.trans hrejected

theorem superseded_of_installed {place : Nat} (hreach : Attainable engine handover)
    (hordered : handover.session.renewals[index]? = some (.ordered setup))
    (hbetween : Leads engine handover between) (hlater : Leads engine between later)
    (hinstalled : between.session.renewals[index]? = some (.installed place)) :
    Superseded setup place between.session later.session := by
  have hreachBetween := (reachable_of_attainable (hreach.trans hbetween)).1
  have hruns := reaches_of_leads (hreach.trans hbetween) hlater
  obtain ⟨renewal, hrenewal, hprogress⟩ := Session.progress_of_reaches
    (reachable_of_attainable hreach).1 hordered (reaches_of_leads hreach hbetween)
  obtain rfl := Option.some.inj (hinstalled.symm.trans hrenewal)
  have hplace : place < between.session.renderer.installations.length := by
    cases hprogress with
    | installed hbuilds hhosts =>
        obtain ⟨installation, hinstallation, -⟩ := hhosts.evolves
        exact (List.getElem?_eq_some_iff.1 hinstallation).1
  refine ⟨?_, ?_, ?_, ?_⟩
  · cases hprogress.reaches hreachBetween hruns with
    | installed hbuilds hhosts => exact ⟨_, _, hbuilds, hhosts⟩
  · intro old installation hinstallation hlt
    exact Session.idle_eq_of_replaced (hreachBetween.trans hruns) hinstallation hlt
  · intro old before after hold hbefore hafter
    obtain ⟨found, hfound, hevolves⟩ :=
      Session.carries_of_reaches hreachBetween hruns old before hbefore
    obtain rfl := Option.some.inj (hfound.symm.trans hafter)
    have hclosed := (Session.idle_eq_of_replaced hreachBetween hbefore (by omega)).1
    exact Pool.Desk.sealed_of_turns hclosed hevolves.turned
  · exact Session.beyond_of_reaches hplace (Session.seated_of_reachable hreachBetween).length_traces
      hruns

/-- Setting a renderer up anew is all or nothing, wherever the renderer has come to and
however the steps of this call, of renders and loads, of changes, of shutdowns and of
other calls of its kind follow each other.  If its setup is rejected, everything is as it
would be without the call.  Once its installation is in place, all older pools are closed
and empty, and no call that starts later has anything to do with an older installation.
And a call that is in an attempt at any moment goes on with the bundle, the script, the
pool, the context and the mode of the installation that it has entered, until it has its
answer from there or is sent away. -/
theorem all_or_nothing (hreach : Attainable engine handover)
    (hordered : handover.session.renewals[index]? = some (.ordered setup))
    (hbetween : Leads engine handover between) (hlater : Leads engine between later) :
    (∀ error, between.session.renewals[index]? = some (.rejected error) →
      Undone engine index setup error handover between) ∧
    (∀ place, between.session.renewals[index]? = some (.installed place) →
      Superseded setup place between.session later.session) ∧
    ∀ (job : Nat) (begun : Job Environment) (attempt : Attempt),
      between.session.renderer.jobs[job]? = some begun →
      begun.stage.attempt? = some attempt →
      ∃ now, later.session.renderer.jobs[job]? = some now ∧
        later.session.Booked begun.call attempt ∧
        Session.Outcome engine later.session begun attempt now := by
  refine ⟨fun error => undone_of_rejected hreach hordered hbetween,
    fun place => superseded_of_installed hreach hordered hbetween hlater, ?_⟩
  intro job begun attempt hjob hattempt
  have hreachBetween := hreach.trans hbetween
  exact Session.outcome_of_reaches (reachable_of_attainable hreachBetween).1 hjob hattempt
    (reaches_of_leads hreachBetween hlater)

def roomlessSetup : Setup :=
  ⟨"", "", ⟨⟨0, 20⟩, .production⟩⟩

theorem build_roomlessSetup (sources : Sources) :
    (Installation.build roomlessSetup sources :
      Except RenderError (Installation Environment)) = .error (.invalidConfig .emptyPool) := by
  simp only [Installation.build, roomlessSetup, Session.parse_empty]
  rfl

/-- Two calls have come that set a renderer of one component up anew. -/
def overlapping : Handover Unit String where
  session :=
    { Session.plainSession () ⟨[("A", "code")]⟩ with
      renewals := [.ordered Session.plainSetup, .ordered roomlessSetup] }
  replacing := none

theorem attainable_overlapping : Attainable Session.echoEngine overlapping :=
  ⟨(), Session.plainSetup, ⟨[("A", "code")]⟩, _,
    Session.start_plainSetup () ⟨[("A", "code")]⟩,
    (Relation.ReflTransGen.refl.tail
      (.turn (.act (.order Session.plainSetup) (.order _) id fun _ => id))).tail
      (.turn (.act (.order roomlessSetup) (.order _) id fun _ => id))⟩

/-- Two calls set a renderer up anew while a render holds a context.  One is rejected, and
the other puts its installation in place.  The render ends in the installation that it has
entered, and another one, which comes later, enters the new one. -/
theorem all_or_nothing_of_overlap :
    ∃ between later : Handover Unit String,
      Attainable Session.echoEngine overlapping ∧
      Leads Session.echoEngine overlapping between ∧ Leads Session.echoEngine between later ∧
      between.session.renewals = [.installed 1, .rejected (.invalidConfig .emptyPool)] ∧
      Superseded Session.plainSetup 1 between.session later.session ∧
      Undone Session.echoEngine 1 roomlessSetup (.invalidConfig .emptyPool) overlapping between ∧
      later.session.renderer.answer? 0 =
        some (.ok (.markup (CodeBundle.assemble "A" "" "code" 1).source)) ∧
      (later.session.traces.map fun trace => trace.attempts.map Attempt.installation) =
        [[0], [1]] := by
  have hstart : Leads Session.echoEngine overlapping overlapping := .refl
  have hserved : Leads Session.echoEngine overlapping _ :=
    (((((hstart.tail
      (.turn (turn_accept _ (.render "A" "/" "")))).tail
      (.turn (.act (.work 0 0) (.work rfl) id fun h => absurd rfl h))).tail
      (.turn (.act (.work 0 0) (.work rfl) id fun h => absurd rfl h))).tail
      (.turn (.act (.serve 0 (.look 0)) (.serve rfl trivial rfl) id fun _ => id))).tail
      (.turn (.act (.serve 0 (.build 0 (.ok (.create 0)))) (.serve rfl ⟨0, rfl, rfl⟩ rfl) id
        fun _ => id)))
  have hbuilt : Leads Session.echoEngine overlapping _ :=
    (((hserved.tail
      (.turn (.act (.renew 1) (.reject rfl (build_roomlessSetup _))
        (Session.not_closes_of_ordered rfl) fun _ => id))).tail
      (.turn (.act (.work 0 0) (.work rfl) id fun h => absurd rfl h))).tail
      (.turn (.act (.renew 0) (.build rfl (Session.build_plainSetup _))
        (Session.not_closes_of_ordered rfl) fun _ => id)))
  have hbetween : Leads Session.echoEngine overlapping _ :=
    ((hbuilt.tail (.turn (.close 0 rfl rfl))).tail (.turn (.put 0 rfl rfl)))
  have hpaused : ∀ {state}, Leads Session.echoEngine overlapping state →
      Leads Session.echoEngine state state := fun _ => .refl
  have hentered : Leads Session.echoEngine _ _ :=
    ((((hpaused hbetween).tail
      (.turn (turn_accept _ (.render "A" "/" "")))).tail
      (.turn (.act (.work 0 1) (.work rfl) id fun h => absurd rfl h))).tail
      (.turn (.act (.work 0 1) (.work rfl) id fun h => absurd rfl h)))
  have hlater : Leads Session.echoEngine _ _ :=
    ((((hentered.tail
      (.turn (.act (.work 0 0) (.work rfl) id fun h => absurd rfl h))).tail
      (.turn (.act (.work 0 0) (.work rfl) id fun h => absurd rfl h))).tail
      (.turn (.act (.work 0 0) (.work rfl) id fun h => absurd rfl h))).tail
      (.turn (.act (.work 0 0) (.work rfl) id fun h => absurd rfl h)))
  have hplain : overlapping.session.renewals[0]? = some (.ordered Session.plainSetup) := rfl
  have hroomless : overlapping.session.renewals[1]? = some (.ordered roomlessSetup) := rfl
  exact ⟨_, _, attainable_overlapping, hbetween, hlater, rfl,
    (all_or_nothing attainable_overlapping hplain hbetween hlater).2.1 1 rfl,
    (all_or_nothing attainable_overlapping hroomless hbetween hlater).1 _ rfl, rfl, rfl⟩

end Handover

end ServerRender
