import ServerRender.Proofs.Pool.Settling
import ServerRender.Proofs.Renderer.Archives
import ServerRender.Renderer.Schedule

/-!
# Renderers that nobody disturbs

In a session everybody takes one step after the other, and others may act in between.
If nobody does, the steps of a call that reports a change come to what the renderer does
for it in one go.  In the same way, a renderer that runs its calls in its own order is
in one of the sessions.  So nothing that it can do is left out of them.
-/

namespace ServerRender

variable {World Environment : Type} {engine : Engine World Environment}

namespace Renderer

variable {renderer : Renderer World Environment} {index : Nat}
variable {installation : Installation Environment}

private theorem modify_of_same {α : Type} {entries : List α} {index : Nat} {entry : α}
    {change : α → α} (hentry : entries[index]? = some entry) (hsame : change entry = entry) :
    entries.modify index change = entries := by
  refine List.ext_getElem? fun other => ?_
  rw [List.getElem?_modify]
  by_cases hindex : index = other
  · subst hindex
    rw [hentry]
    simp [hsame]
  · simp [hindex]

theorem installation_setCache
    (hinstallation : renderer.installations[index]? = some installation) (cache : CodeCache) :
    (renderer.setCache index cache).installations[index]? = some { installation with cache } := by
  simp [setCache, hinstallation]

theorem setCache_self (hinstallation : renderer.installations[index]? = some installation) :
    renderer.setCache index installation.cache = renderer := by
  have hsame : renderer.installations.modify index
      (fun i => { i with cache := installation.cache }) = renderer.installations :=
    modify_of_same hinstallation rfl
  rw [setCache, hsame]

theorem setCache_setCache (first second : CodeCache) :
    (renderer.setCache index first).setCache index second = renderer.setCache index second := by
  have hsame : (renderer.installations.modify index fun i => { i with cache := first }).modify
      index (fun i => { i with cache := second }) =
      renderer.installations.modify index fun i => { i with cache := second } := by
    rw [List.modify_modify_eq]
    rfl
  simp only [setCache, hsame]

theorem installation_setDesk
    (hinstallation : renderer.installations[index]? = some installation)
    (desk : Pool.Desk (ExecutionContext Environment)) :
    (renderer.setDesk index desk).installations[index]? = some { installation with desk } := by
  simp [setDesk, hinstallation]

theorem setDesk_self (hinstallation : renderer.installations[index]? = some installation) :
    renderer.setDesk index installation.desk = renderer := by
  have hsame : renderer.installations.modify index
      (fun i => { i with desk := installation.desk }) = renderer.installations :=
    modify_of_same hinstallation rfl
  rw [setDesk, hsame]

theorem setDesk_setDesk (first second : Pool.Desk (ExecutionContext Environment)) :
    (renderer.setDesk index first).setDesk index second = renderer.setDesk index second := by
  have hsame : (renderer.installations.modify index fun i => { i with desk := first }).modify
      index (fun i => { i with desk := second }) =
      renderer.installations.modify index fun i => { i with desk := second } := by
    rw [List.modify_modify_eq]
    rfl
  simp only [setDesk, hsame]

end Renderer

namespace Session

variable {session : Session World Environment} {index place snapshot : Nat}
variable {component core : String} {due : List (String × String)}
variable {installation : Installation Environment} {archive : Archive}

/-- A writer that publishes all that is due, and then lets others write. -/
theorem reaches_publishAll
    (hchange : session.changes[index]? = some ⟨component, .writing place snapshot core due⟩)
    (hinstallation : session.renderer.installations[place]? = some installation)
    (harchive : session.archives[place]? = some archive) :
    Reaches engine session
      { session with
        renderer := session.renderer.setCache place (installation.cache.publishAll core due)
        archives := session.archives.set place
          (installation.cache.archiveAll archive snapshot core due)
        changes := session.changes.set index ⟨component, .done place snapshot⟩ } := by
  induction due generalizing session installation archive with
  | nil =>
      have hsame : session.archives.set place archive = session.archives := by
        obtain ⟨hlt, rfl⟩ := List.getElem?_eq_some_iff.1 harchive
        exact List.set_getElem_self hlt
      have hfinish : Turn engine session (.change index) _ := .finish hchange
      rw [CodeCache.publishAll, List.foldl_nil, CodeCache.archiveAll,
        Renderer.setCache_self hinstallation, hsame]
      exact .single ⟨_, hfinish⟩
  | cons first rest ih =>
      have hpublish : Turn engine session (.change index) _ :=
        .publish hchange hinstallation harchive
      have hindex := (List.getElem?_eq_some_iff.1 hchange).1
      have hplace := (List.getElem?_eq_some_iff.1 harchive).1
      refine .head ⟨_, hpublish⟩ ?_
      have hrest : Reaches engine
          { session with
            renderer := session.renderer.setCache place
              (installation.cache.publish core first.1 first.2)
            archives := session.archives.set place
              (archive.add (installation.cache.publication snapshot core first.1 first.2))
            changes := session.changes.set index
              ⟨component, .writing place snapshot core rest⟩ } _ :=
        ih (List.getElem?_set_self hindex)
          (Renderer.installation_setCache hinstallation _) (List.getElem?_set_self hplace)
      simp only [Renderer.setCache_setCache, List.set_set] at hrest
      exact hrest

/-- A call that reports a change and reads which installation is current. -/
theorem reaches_entered (session : Session World Environment) (component : String) :
    Reaches engine session
      { session with
        changes := session.changes ++
          [⟨component, .entered (session.renderer.installations.length - 1)⟩] } := by
  have hreport : Turn engine session (.report component) _ := .report component
  have henter : Turn engine
      { session with changes := session.changes ++ [⟨component, .entering⟩] } _ _ :=
    .enter List.getElem?_concat_length
  simp only [List.set_append_right, Nat.le_refl, Nat.sub_self, List.set_cons_zero] at henter
  exact (Relation.ReflTransGen.single ⟨_, hreport⟩).tail ⟨_, henter⟩

/-- What the renderer does for a change in one go is one way for a session to go on. -/
theorem reaches_componentChanged {renderer : Renderer World Environment}
    (hfiled : session.Filed)
    (hcurrent : session.renderer.current? = some installation)
    (hfree : session.changes.all (fun change =>
      !change.isWriting (session.renderer.installations.length - 1)) = true)
    (hchanged : session.renderer.componentChanged session.sources component = .ok renderer) :
    ∃ later, Reaches engine session later ∧ later.renderer = renderer ∧
      later.changes = session.changes ++
        [⟨component, .done (session.renderer.installations.length - 1)
          session.snapshots.length⟩] := by
  have hinstallation :
      session.renderer.installations[session.renderer.installations.length - 1]? =
        some installation := by
    rw [← List.getLast?_eq_getElem?]
    exact hcurrent
  obtain ⟨archive, harchive, -⟩ := hfiled.exists_archive hinstallation
  simp only [Renderer.componentChanged, hcurrent, CodeCache.invalidate_eq_publishAll] at hchanged
  cases hdue : installation.cache.due session.sources component with
  | error error =>
      rw [hdue] at hchanged
      contradiction
  | ok due =>
      rw [hdue] at hchanged
      obtain rfl := Except.ok.inj hchanged
      have hread : Turn engine
          { session with
            changes := session.changes ++
              [⟨component, .entered (session.renderer.installations.length - 1)⟩] } _ _ :=
        .read List.getElem?_concat_length hinstallation
          (by simpa [Change.isWriting] using hfree) hdue
      simp only [List.set_append_right, Nat.le_refl, Nat.sub_self, List.set_cons_zero] at hread
      have hpublish : Reaches engine
          { session with
            snapshots := session.snapshots ++ [session.sources]
            changes := session.changes ++
              [⟨component, .writing (session.renderer.installations.length - 1)
                session.snapshots.length (installation.cache.coreSource session.sources)
                due⟩] } _ :=
        reaches_publishAll List.getElem?_concat_length hinstallation harchive
      refine ⟨_, ((reaches_entered session component).tail ⟨_, hread⟩).trans hpublish, rfl, ?_⟩
      simp

/-! ## Pools at work -/

/-- A desk that only its pool and its callers have worked on, but no call. -/
def ServesOn : Pool.Desk (ExecutionContext Environment) →
    Pool.Desk (ExecutionContext Environment) → Prop :=
  Relation.ReflTransGen fun desk next =>
    ∃ action events, Serves desk action ∧ desk.step action = some (next, events)

theorem serves_of_urgent {desk : Pool.Desk (ExecutionContext Environment)}
    {action : Pool.Action (ExecutionContext Environment)}
    (hurgent : desk.urgent? Renderer.factory = some action) : Serves desk action := by
  cases Pool.Desk.urgent_of_urgent? hurgent with
  | build hphase => exact ⟨_, hphase, rfl⟩
  | _ => trivial

theorem servesOn_runUrgent (count : Nat) (desk : Pool.Desk (ExecutionContext Environment)) :
    ServesOn desk (desk.runUrgent Renderer.factory count).1 := by
  induction count generalizing desk with
  | zero => exact .refl
  | succ count ih =>
      simp only [Pool.Desk.runUrgent]
      split
      · exact .refl
      · next next events hstep =>
          obtain ⟨action, hurgent, hstep⟩ := Option.bind_eq_some_iff.1 hstep
          exact .head ⟨action, events, serves_of_urgent hurgent, hstep⟩ (ih next)

theorem servesOn_settle (desk : Pool.Desk (ExecutionContext Environment)) :
    ServesOn desk (desk.settle Renderer.factory).1 :=
  servesOn_runUrgent _ desk

theorem servesOn_passUntil (time count : Nat)
    (desk : Pool.Desk (ExecutionContext Environment)) :
    ServesOn desk (desk.passUntil Renderer.factory time count).1 := by
  induction count generalizing desk with
  | zero => exact .refl
  | succ count ih =>
      simp only [Pool.Desk.passUntil]
      split
      · next caller deadline hnext =>
          split
          · refine Relation.ReflTransGen.trans ?_ (ih _)
            simp only [Pool.Desk.expire]
            split
            · next expired events hstep =>
                exact .head ⟨.expire caller, events, trivial, hstep⟩ (servesOn_settle expired)
            · exact .refl
          · exact .refl
      · exact .refl

theorem reaches_servesOn {desk : Pool.Desk (ExecutionContext Environment)}
    (hinstallation : session.renderer.installations[place]? = some installation)
    (hserves : ServesOn installation.desk desk) :
    Reaches engine session { session with renderer := session.renderer.setDesk place desk } := by
  induction hserves with
  | refl =>
      rw [Renderer.setDesk_self hinstallation]
      exact .refl
  | @tail between last hbefore hstep ih =>
      obtain ⟨action, events, hserves, hstep⟩ := hstep
      have hserve : Turn engine
          { session with renderer := session.renderer.setDesk place between } _ _ :=
        .serve (Renderer.installation_setDesk hinstallation between) hserves hstep
      rw [Renderer.setDesk_setDesk] at hserve
      exact ih.tail ⟨_, hserve⟩

def settled (installation : Installation Environment) : Installation Environment :=
  { installation with desk := (installation.desk.settle Renderer.factory).1 }

/-- The pools are served one after the other. -/
theorem reaches_settled {done rest : List (Installation Environment)}
    (hinstallations : session.renderer.installations = done ++ rest) :
    Reaches engine session
      { session with
        renderer := { session.renderer with installations := done ++ rest.map settled } } := by
  induction rest generalizing session done with
  | nil =>
      rw [List.map_nil, ← hinstallations]
      exact .refl
  | cons installation rest ih =>
      have hinstallation : session.renderer.installations[done.length]? =
          some installation := by
        rw [hinstallations]
        simp
      have hserved : Reaches engine session _ :=
        reaches_servesOn hinstallation (servesOn_settle installation.desk)
      have hmodified := List.modifyTailIdx_add
        (List.modifyHead fun i : Installation Environment =>
          { i with desk := (installation.desk.settle Renderer.factory).1 }) 0 done
        (installation :: rest)
      have hnext : (session.renderer.setDesk done.length
          (installation.desk.settle Renderer.factory).1).installations =
          (done ++ [settled installation]) ++ rest := by
        rw [Renderer.setDesk, hinstallations, List.append_assoc]
        exact hmodified
      have hrest : Reaches engine
          { session with
            renderer := session.renderer.setDesk done.length
              (installation.desk.settle Renderer.factory).1 } _ := ih hnext
      rw [List.append_assoc] at hrest
      exact hserved.trans hrest

theorem settleDesks_eq (renderer : Renderer World Environment) :
    renderer.settleDesks.1 =
      { renderer with installations := renderer.installations.map settled } := by
  simp [Renderer.settleDesks, settled, Function.comp_def]

theorem reaches_runSteps (time count : Nat) (session : Session World Environment) :
    ∃ later, Reaches engine session later ∧
      later.renderer = (session.renderer.runSteps engine time count).1 := by
  induction count generalizing session with
  | zero => exact ⟨session, .refl, rfl⟩
  | succ count ih =>
      have hsettled : Reaches engine session _ := reaches_settled (List.nil_append _).symm
      rw [List.nil_append, ← settleDesks_eq] at hsettled
      simp only [Renderer.runSteps]
      split
      · exact ⟨_, hsettled, rfl⟩
      · next next events hfirst =>
          obtain ⟨job, -, hstep⟩ := List.exists_of_findSome?_eq_some hfirst
          have hwork : Turn engine
              { session with renderer := session.renderer.settleDesks.1 } (.work time job) _ :=
            .work hstep
          obtain ⟨later, hlater, hrenderer⟩ := ih
            { session with
              renderer := next
              traces := session.traces.modify job fun trace =>
                trace.add ((next.jobs[job]?).map Job.stage) events }
          exact ⟨later, (hsettled.tail ⟨_, hwork⟩).trans hlater, hrenderer⟩

theorem reaches_passTime (time job : Nat) (session : Session World Environment) :
    Reaches engine session
      { session with renderer := (session.renderer.passTime time job).1 } := by
  simp only [Renderer.passTime]
  split
  · next attempt hstage =>
      split
      · next installation hinstallation =>
          refine reaches_servesOn hinstallation ?_
          simp only [Pool.Desk.await]
          split
          · exact servesOn_passUntil _ _ _
          · exact .refl
      · exact .refl
  · exact .refl

/-- Whatever the renderer does to finish a call, a session may do. -/
theorem reaches_await (job rounds time : Nat) (session : Session World Environment) :
    ∃ later, Reaches engine session later ∧
      later.renderer = (session.renderer.await engine job rounds time).1 := by
  induction rounds generalizing session time with
  | zero => exact ⟨session, .refl, rfl⟩
  | succ rounds ih =>
      obtain ⟨ran, hran, hrenderer⟩ :=
        @reaches_runSteps _ _ engine time (24 * (session.renderer.jobs.length + 1)) session
      simp only [Renderer.await, Renderer.run, ← hrenderer]
      split
      · exact ⟨ran, hran, rfl⟩
      · obtain ⟨later, hlater, hlast⟩ := ih (ran.renderer.passTime time job).2.2
          { ran with renderer := (ran.renderer.passTime time job).1 }
        exact ⟨later, (hran.trans (reaches_passTime time job ran)).trans hlater, hlast⟩

end Session

end ServerRender
