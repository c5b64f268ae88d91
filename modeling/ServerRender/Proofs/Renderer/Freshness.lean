import ServerRender.Proofs.Renderer.Archives
import ServerRender.Proofs.Renderer.Attempts

/-!
# Updates that reach the renders

A call that reports a change returns once the cache of its installation has a bundle
of the component from the registry as the call has read it.  From then on no call that
starts takes an older bundle from that installation.  A later installation is only as
new as the snapshot that it was built from, and it may have been built long before it
was put in place.
-/

namespace ServerRender.Session

variable {World Environment : Type} {engine : Engine World Environment}
variable {session next later : Session World Environment}
variable {action : Action World Environment}

/-- The cache of an installation has published something of the component from this
snapshot or a later one. -/
def Covers (session : Session World Environment) (place : Nat) (component : String)
    (snapshot : Nat) : Prop :=
  ∃ archive, session.archives[place]? = some archive ∧ archive.Covers component snapshot

/-- What the change has read is published, or still due. -/
def Delivers (session : Session World Environment) (change : Change) : Prop :=
  match change.stage with
  | .writing place snapshot _ due =>
    place < session.archives.length ∧ (change.component ≠ CodeBundle.coreComponent →
      (∃ source, (change.component, source) ∈ due) ∨
        session.Covers place change.component snapshot)
  | .done place snapshot =>
    place < session.archives.length ∧ (change.component ≠ CodeBundle.coreComponent →
      session.Covers place change.component snapshot)
  | _ => True

theorem covers_of_turn (hturn : Turn engine session action next) {place snapshot : Nat}
    {component : String} (hcovers : session.Covers place component snapshot) :
    next.Covers place component snapshot := by
  obtain ⟨archive, harchive, hcovered⟩ := hcovers
  obtain ⟨later, hlater, hextends⟩ := archive_of_turn hturn harchive
  exact ⟨later, hlater, hextends.covers hcovered⟩

theorem length_archives_of_turn (hturn : Turn engine session action next) :
    session.archives.length ≤ next.archives.length := by
  cases hturn <;> simp

theorem delivers_of_turn (hturn : Turn engine session action next) {change : Change}
    (hdelivers : session.Delivers change) : next.Delivers change := by
  obtain ⟨component, stage⟩ := change
  have hlength := length_archives_of_turn hturn
  cases stage with
  | writing place snapshot core due =>
      refine ⟨Nat.lt_of_lt_of_le hdelivers.1 hlength, fun hcomponent => ?_⟩
      exact (hdelivers.2 hcomponent).imp_right (covers_of_turn hturn)
  | done place snapshot =>
      refine ⟨Nat.lt_of_lt_of_le hdelivers.1 hlength, fun hcomponent => ?_⟩
      exact covers_of_turn hturn (hdelivers.2 hcomponent)
  | _ => trivial

theorem delivers_read {place snapshot : Nat} {component : String}
    {installation : Installation Environment} {due : List (String × String)}
    (hfiled : session.Filed)
    (hinstallation : session.renderer.installations[place]? = some installation)
    (hdue : installation.cache.due session.sources component = .ok due) (core : String) :
    session.Delivers ⟨component, .writing place snapshot core due⟩ := by
  obtain ⟨archive, harchive, -⟩ := hfiled.exists_archive hinstallation
  refine ⟨(List.getElem?_eq_some_iff.1 harchive).1, fun hcomponent => .inl ?_⟩
  simp only [CodeCache.due, if_neg hcomponent] at hdue
  split at hdue
  · next source hsource =>
      obtain rfl := Except.ok.inj hdue
      exact ⟨source, List.mem_singleton_self _⟩
  · contradiction

theorem covers_publish {place snapshot : Nat} {core name source : String} {cache : CodeCache}
    {archive : Archive} (harchive : session.archives[place]? = some archive) :
    Covers { session with
      archives := session.archives.set place
        (archive.add (cache.publication snapshot core name source)) } place name snapshot := by
  have hlt := (List.getElem?_eq_some_iff.1 harchive).1
  exact ⟨_, List.getElem?_set_self hlt, _, List.mem_cons_self, rfl, Nat.le_refl _⟩

/-- Whatever a change goes on to, it has published, or has still due, what it has read. -/
theorem delivered_of_turn (hfiled : session.Filed) (hturn : Turn engine session action next)
    (hdelivered : ∀ change ∈ session.changes, session.Delivers change) :
    ∀ change ∈ next.changes, next.Delivers change := by
  have hkept : ∀ change ∈ session.changes, next.Delivers change :=
    fun change hmem => delivers_of_turn hturn (hdelivered change hmem)
  have hset : ∀ {index : Nat} {new : Change}, next.Delivers new →
      ∀ change ∈ session.changes.set index new, next.Delivers change := by
    intro index new hnew change hmem
    rcases List.mem_or_eq_of_mem_set hmem with hold | rfl
    · exact hkept change hold
    · exact hnew
  cases hturn with
  | report component =>
      intro change hmem
      rcases List.mem_append.1 hmem with hold | hnew
      · exact hkept change hold
      · obtain rfl := List.mem_singleton.1 hnew
        trivial
  | enter hchange => exact hset trivial
  | read hchange hinstallation hfree hdue =>
      exact hset (delivers_read hfiled hinstallation hdue _)
  | fail hchange hinstallation hfree hdue => exact hset trivial
  | @publish index place snapshot component core name source due installation archive hchange
      hinstallation harchive =>
      refine hset ?_
      obtain ⟨hlt, hdue⟩ := hkept _ (List.mem_of_getElem? hchange)
      refine ⟨hlt, fun hcomponent => ?_⟩
      -- What comes next is either what the change is about or something else that is due.
      rcases hdue hcomponent with ⟨found, hfound⟩ | hcovers
      · rcases List.mem_cons.1 hfound with hhead | hrest
        · have hname : component = name := congrArg Prod.fst hhead
          subst hname
          exact .inr (covers_publish harchive)
        · exact .inl ⟨found, hrest⟩
      · exact .inr hcovers
  | finish hchange =>
      refine hset ?_
      obtain ⟨hlt, hdue⟩ := hkept _ (List.mem_of_getElem? hchange)
      refine ⟨hlt, fun hcomponent => ?_⟩
      rcases hdue hcomponent with ⟨found, hfound⟩ | hcovers
      · contradiction
      · exact hcovers
  | _ => exact hkept

theorem delivered_of_reachable (hreach : Reachable engine session) :
    ∀ change ∈ session.changes, session.Delivers change := by
  refine Reachable.induction
    (motive := fun session => ∀ change ∈ session.changes, session.Delivers change) ?_ ?_ hreach
  · intro world setup sources first hstart
    obtain ⟨installation, -, rfl⟩ := start_eq_ok hstart
    simp
  · intro session action next hreach hturn hdelivered
    exact delivered_of_turn (filed_of_reachable hreach) hturn hdelivered

/-! ## Calls that start later -/

def TakenFrom (session : Session World Environment) (attempt : Attempt) (snapshot : Nat) :
    Prop :=
  ∃ archive, session.archives[attempt.installation]? = some archive ∧
    ⟨attempt.bundle, snapshot⟩ ∈ archive.publications

/-- The calls from a number on have not entered an installation before `place`, and from
`place` itself they have taken no bundle of the component older than the snapshot. -/
structure Current (component : String) (place snapshot first : Nat)
    (session : Session World Environment) : Prop where
  place_lt : place < session.archives.length
  covered : component ≠ CodeBundle.coreComponent → session.Covers place component snapshot
  entered : ∀ {job index : Nat} {state : Job Environment}, first ≤ job →
    session.renderer.jobs[job]? = some state → state.stage = .entered index → place ≤ index
  taken : ∀ {job : Nat} {state : Job Environment} {trace : Trace} {attempt : Attempt},
    first ≤ job → session.renderer.jobs[job]? = some state →
    state.call.component = component → session.traces[job]? = some trace →
    attempt ∈ trace.attempts →
    place ≤ attempt.installation ∧ ∃ taken, session.TakenFrom attempt taken ∧
      (attempt.installation = place → snapshot ≤ taken)

theorem takenFrom_of_turn (hturn : Turn engine session action next) {attempt : Attempt}
    {snapshot : Nat} (htaken : session.TakenFrom attempt snapshot) :
    next.TakenFrom attempt snapshot := by
  obtain ⟨archive, harchive, hmem⟩ := htaken
  obtain ⟨later, hlater, hextends⟩ := archive_of_turn hturn harchive
  exact ⟨later, hlater, hextends.mem _ hmem⟩

/-- A call takes the bundle that the cache has last published. -/
theorem takenFrom_of_checkout {renderer : Renderer World Environment} {job : Nat}
    {before after : Job Environment} {events : List Log.Event} {attempt : Attempt}
    {place snapshot : Nat} (hfiled : session.Filed)
    (hstride : Renderer.Stride engine session.renderer job before after renderer events)
    (hcheckout : after.stage = .checkout attempt)
    (hcovers : after.call.component ≠ CodeBundle.coreComponent →
      session.Covers place after.call.component snapshot) :
    ∃ taken, session.TakenFrom attempt taken ∧
      (attempt.installation = place → snapshot ≤ taken) := by
  obtain ⟨installation, -, hinstallation, hget, -⟩ :=
    hstride.exists_installation_of_checkout hcheckout
  obtain ⟨archive, harchive, hrecorded⟩ := hfiled.exists_archive hinstallation
  obtain ⟨publication, hmem, hbundle, hname⟩ := hrecorded.exists_publication hget
  by_cases hplace : attempt.installation = place
  · have hcomponent := hrecorded.component_ne hmem
    rw [hbundle, hname] at hcomponent
    obtain ⟨covering, hcovering, hcovered⟩ := hcovers hcomponent
    rw [← hplace] at hcovering
    obtain rfl := Option.some.inj (harchive.symm.trans hcovering)
    obtain ⟨latest, hlatestMem, hlatest, hle⟩ := hrecorded.exists_bundle_of_covers hcovered
    refine ⟨latest.snapshot, ⟨archive, harchive, ?_⟩, fun _ => hle⟩
    rw [← Option.some.inj (hlatest.symm.trans hget)]
    exact hlatestMem
  · refine ⟨publication.snapshot, ⟨archive, harchive, ?_⟩, fun hsame => absurd hsame hplace⟩
    rw [← hbundle]
    exact hmem

namespace Current

variable {component : String} {place snapshot first : Nat}

theorem entered_of_turn (hcurrent : Current component place snapshot first session)
    (hfiled : session.Filed) (hturn : Turn engine session action next) {job index : Nat}
    {state : Job Environment} (hfirst : first ≤ job)
    (hjob : next.renderer.jobs[job]? = some state) (hentered : state.stage = .entered index) :
    place ≤ index := by
  rcases job_cases_of_turn hturn hjob with
    ⟨-, hold⟩ | ⟨-, hnew⟩ | ⟨time, before, events, -, -, hstride⟩
  · exact hcurrent.entered hfirst hold hentered
  · rw [hnew] at hentered
    contradiction
  · -- A call enters the last installation, and there are no fewer of them than before.
    have hlt := hcurrent.place_lt
    have hindex := hstride.index_of_entered hentered
    have hlength := hfiled.length_archives
    omega

theorem taken_of_turn (hcurrent : Current component place snapshot first session)
    (hfiled : session.Filed) (hseated : session.Seated)
    (hturn : Turn engine session action next) {job : Nat} {state : Job Environment}
    {trace : Trace} {attempt : Attempt} (hfirst : first ≤ job)
    (hjob : next.renderer.jobs[job]? = some state) (hcomponent : state.call.component = component)
    (htrace : next.traces[job]? = some trace) (hmem : attempt ∈ trace.attempts) :
    place ≤ attempt.installation ∧ ∃ taken, next.TakenFrom attempt taken ∧
      (attempt.installation = place → snapshot ≤ taken) := by
  rcases attempt_cases_of_turn hturn htrace hmem with
    ⟨earlier, hearlier, hold⟩ | ⟨time, before, after, events, -, hbefore, hstride, hcheckout⟩
  · obtain ⟨before, hbefore, hcall⟩ := exists_job_of_trace hseated hturn hjob hearlier
    rw [← hcall] at hcomponent
    obtain ⟨hplace, taken, htaken, hle⟩ := hcurrent.taken hfirst hbefore hcomponent hearlier hold
    exact ⟨hplace, taken, takenFrom_of_turn hturn htaken, hle⟩
  · obtain rfl := Option.some.inj ((hstride.job_eq hbefore).symm.trans hjob)
    obtain ⟨installation, hentered, -⟩ := hstride.exists_installation_of_checkout hcheckout
    refine ⟨hcurrent.entered hfirst hbefore hentered, ?_⟩
    obtain ⟨taken, htaken, hle⟩ :=
      takenFrom_of_checkout hfiled hstride hcheckout (hcomponent ▸ hcurrent.covered)
    exact ⟨taken, takenFrom_of_turn hturn htaken, hle⟩

theorem turn (hcurrent : Current component place snapshot first session)
    (hfiled : session.Filed) (hseated : session.Seated)
    (hturn : Turn engine session action next) :
    Current component place snapshot first next where
  place_lt := Nat.lt_of_lt_of_le hcurrent.place_lt (length_archives_of_turn hturn)
  covered hcomponent := covers_of_turn hturn (hcurrent.covered hcomponent)
  entered := hcurrent.entered_of_turn hfiled hturn
  taken := hcurrent.taken_of_turn hfiled hseated hturn

end Current

/-- Once a change is done, the calls that start later are current. -/
theorem current_of_done (hreach : Reachable engine session) {index place snapshot : Nat}
    {component : String}
    (hdone : session.changes[index]? = some ⟨component, .done place snapshot⟩)
    (hlater : Reaches engine session later) :
    Current component place snapshot session.renderer.jobs.length later := by
  induction hlater with
  | refl =>
      obtain ⟨hlt, hcovered⟩ :=
        delivered_of_reachable hreach _ (List.mem_of_getElem? hdone)
      refine ⟨hlt, hcovered, ?_, ?_⟩
      · intro job index state hfirst hjob
        exact absurd (List.getElem?_eq_some_iff.1 hjob).1 (Nat.not_lt.2 hfirst)
      · intro job state trace attempt hfirst hjob
        exact absurd (List.getElem?_eq_some_iff.1 hjob).1 (Nat.not_lt.2 hfirst)
  | tail hbefore hturn ih =>
      obtain ⟨action, hturn⟩ := hturn
      have hbetween := hreach.trans hbefore
      exact ih.turn (filed_of_reachable hbetween) (seated_of_reachable hbetween) hturn

def BuiltFrom (session : Session World Environment) (place snapshot : Nat) : Prop :=
  ∃ archive, session.archives[place]? = some archive ∧ archive.built = snapshot

def AssembledFrom (session : Session World Environment) (attempt : Attempt)
    (snapshot : Nat) : Prop :=
  ∃ installation, session.renderer.installations[attempt.installation]? = some installation ∧
    Publication.Assembled session.snapshots installation.cache.coreLibrary
      ⟨attempt.bundle, snapshot⟩

theorem Filed.built_of_takenFrom (hfiled : session.Filed) {attempt : Attempt} {taken : Nat}
    (htaken : session.TakenFrom attempt taken) :
    session.AssembledFrom attempt taken ∧
      ∃ built, session.BuiltFrom attempt.installation built ∧ built ≤ taken := by
  obtain ⟨archive, harchive, hmem⟩ := htaken
  obtain ⟨installation, hinstallation, hrecorded⟩ := hfiled.exists_installation harchive
  exact ⟨⟨installation, hinstallation, hrecorded.assembled _ hmem⟩, archive.built,
    ⟨archive, harchive, rfl⟩, hrecorded.built_le _ hmem⟩

/-- No reported change is lost where it was reported.  A call that starts after the
change is done, and takes a bundle of the component, takes it from the installation that
was updated or a later one.  The bundle holds the sources of a snapshot that is not
older than what that installation was built from.  If it is the updated one, or was
built from a snapshot at least as new, then neither is the bundle older than what the
change has read.  And the updated installation has a bundle of the component from then
on, unless it is the core library. -/
theorem fresh_of_done (hreach : Reachable engine session) (index : Nat)
    {place snapshot : Nat} {component : String}
    (hdone : session.changes[index]? = some ⟨component, .done place snapshot⟩)
    (hlater : Reaches engine session later) :
    (∀ job state trace attempt,
      session.renderer.jobs.length ≤ job → later.renderer.jobs[job]? = some state →
      state.call.component = component → later.traces[job]? = some trace →
      attempt ∈ trace.attempts →
      place ≤ attempt.installation ∧ ∃ built taken,
        later.BuiltFrom attempt.installation built ∧ later.TakenFrom attempt taken ∧
        later.AssembledFrom attempt taken ∧ built ≤ taken ∧
        (attempt.installation = place ∨ snapshot ≤ built → snapshot ≤ taken)) ∧
    (component ≠ CodeBundle.coreComponent → ∃ installation bundle,
      later.renderer.installations[place]? = some installation ∧
      installation.cache.get component = .ok bundle) := by
  have hcurrent := current_of_done hreach hdone hlater
  have hfiled := filed_of_reachable (hreach.trans hlater)
  constructor
  · intro job state trace attempt hfirst hjob hcomponent htrace hmem
    obtain ⟨hplace, taken, htaken, hle⟩ :=
      hcurrent.taken hfirst hjob hcomponent htrace hmem
    obtain ⟨hassembled, built, hbuilt, hbuiltLe⟩ := hfiled.built_of_takenFrom htaken
    refine ⟨hplace, built, taken, hbuilt, htaken, hassembled, hbuiltLe, ?_⟩
    rintro (hsame | hnew)
    · exact hle hsame
    · exact Nat.le_trans hnew hbuiltLe
  · intro hcomponent
    obtain ⟨archive, harchive, hcovered⟩ := hcurrent.covered hcomponent
    obtain ⟨installation, hinstallation, hrecorded⟩ := hfiled.exists_installation harchive
    obtain ⟨publication, -, hget, -⟩ := hrecorded.exists_bundle_of_covers hcovered
    exact ⟨installation, publication.bundle, hinstallation, by simp [CodeCache.get, hget]⟩

def idleEngine : Engine Unit Unit where
  create world := (world, .value ())
  load world _ _ := (world, ⟨[], (), [], .value ()⟩)
  eval world _ _ := (world, ⟨[], (), [], .value .null⟩)
  isOpen _ _ := true

/-- The source of a component is edited and the change reported, and then a render takes
the new bundle. -/
theorem fresh_of_edit :
    ∃ (session later : Session Unit Unit) (attempt : Attempt),
      Reachable idleEngine session ∧ session.changes = [⟨"A", .done 0 1⟩] ∧
      Reaches idleEngine session later ∧ later.traces = [⟨[attempt], []⟩] ∧
      ∃ taken, later.TakenFrom attempt taken ∧ later.AssembledFrom attempt taken ∧
        1 ≤ taken := by
  obtain ⟨session, later, state, attempt, hreach, hchanges, hjobs, hlater, hstate,
      hcomponent, htraces, hplace⟩ :
      ∃ (session later : Session Unit Unit) (state : Job Unit) (attempt : Attempt),
        Reachable idleEngine session ∧ session.changes = [⟨"A", .done 0 1⟩] ∧
        session.renderer.jobs = [] ∧ Reaches idleEngine session later ∧
        later.renderer.jobs = [state] ∧ state.call.component = "A" ∧
        later.traces = [⟨[attempt], []⟩] ∧ attempt.installation = 0 :=
    ⟨_, _, _, _,
      ⟨(), plainSetup, ⟨[("A", "old")]⟩, _, start_plainSetup () ⟨[("A", "old")]⟩,
        (((((Relation.ReflTransGen.refl.tail
          ⟨.edit ⟨[("A", "new")]⟩, .edit _⟩).tail
          ⟨.report "A", .report _⟩).tail
          ⟨.change 0, .enter rfl⟩).tail
          ⟨.change 0, .read rfl rfl rfl rfl⟩).tail
          ⟨.change 0, .publish rfl rfl rfl⟩).tail
          ⟨.change 0, .finish rfl⟩⟩,
      rfl, rfl,
      ((Relation.ReflTransGen.refl.tail
        ⟨.accept (.render "A" "/" ""), .accept _⟩).tail
        ⟨.work 0 0, .work rfl⟩).tail
        ⟨.work 0 0, .work rfl⟩,
      rfl, rfl, rfl, rfl⟩
  obtain ⟨hfresh, -⟩ := fresh_of_done hreach 0 (congrArg (·[0]?) hchanges) hlater
  obtain ⟨-, built, taken, -, htaken, hassembled, -, hle⟩ :=
    hfresh 0 state ⟨[attempt], []⟩ attempt (by simp [hjobs]) (by simp [hstate]) hcomponent
      (by simp [htraces]) List.mem_cons_self
  exact ⟨session, later, attempt, hreach, hchanges, hlater, htraces, taken, htaken,
    hassembled, hle (.inl hplace)⟩

/-- An installation may be built before a change has read the registry, and be put in place
after the change is done.  A render that starts after that takes the old bundle. -/
theorem exists_lost_update :
    ∃ (session later : Session Unit Unit) (state : Job Unit) (attempt : Attempt),
      Reachable idleEngine session ∧ session.changes = [⟨"A", .done 0 2⟩] ∧
      session.snapshots[2]? = some ⟨[("A", "new")]⟩ ∧ session.renderer.jobs = [] ∧
      Reaches idleEngine session later ∧ later.renderer.jobs = [state] ∧
      state.call = .render "A" "/" "" ∧ later.traces = [⟨[attempt], []⟩] ∧
      attempt.bundle = .assemble "A" "" "old" 1 ∧
      ∀ taken, later.TakenFrom attempt taken → taken = 1 := by
  have hreach : Reachable idleEngine _ :=
    ⟨(), plainSetup, ⟨[("A", "old")]⟩, _, start_plainSetup () ⟨[("A", "old")]⟩,
      (((((((Relation.ReflTransGen.refl.tail
        ⟨.order plainSetup, .order _⟩).tail
        ⟨.renew 0, .build rfl (build_plainSetup _)⟩).tail
        ⟨.edit ⟨[("A", "new")]⟩, .edit _⟩).tail
        ⟨.report "A", .report _⟩).tail
        ⟨.change 0, .enter rfl⟩).tail
        ⟨.change 0, .read rfl rfl rfl rfl⟩).tail
        ⟨.change 0, .publish rfl rfl rfl⟩).tail
        ⟨.change 0, .finish rfl⟩⟩
  refine ⟨_, _, _, _, hreach, rfl, rfl, rfl,
    (((Relation.ReflTransGen.refl.tail
      ⟨.renew 0, .install rfl⟩).tail
      ⟨.accept (.render "A" "/" ""), .accept _⟩).tail
      ⟨.work 0 0, .work rfl⟩).tail
      ⟨.work 0 0, .work rfl⟩,
    rfl, rfl, rfl, rfl, ?_⟩
  rintro taken ⟨archive, harchive, hmem⟩
  obtain rfl := Option.some.inj harchive
  exact congrArg Publication.snapshot (List.mem_singleton.1 hmem)

/-- Not every render that starts after a change is done takes a bundle that is as new as what
the change has read. -/
theorem not_forall_update_kept :
    ¬ ∀ (session later : Session Unit Unit) (index place snapshot job : Nat)
        (component urlPath props : String) (state : Job Unit) (trace : Trace)
        (attempt : Attempt), Reachable idleEngine session →
        session.changes[index]? = some ⟨component, .done place snapshot⟩ →
        Reaches idleEngine session later → session.renderer.jobs.length ≤ job →
        later.renderer.jobs[job]? = some state →
        state.call = .render component urlPath props → later.traces[job]? = some trace →
        attempt ∈ trace.attempts → ∃ taken, later.TakenFrom attempt taken ∧ snapshot ≤ taken := by
  intro hall
  obtain ⟨session, later, state, attempt, hreach, hchanges, -, hjobs, hlater, hstate, hcall,
    htraces, -, htaken⟩ := exists_lost_update
  obtain ⟨taken, hfrom, hle⟩ := hall session later 0 0 2 0 "A" "/" "" state ⟨[attempt], []⟩
    attempt hreach (by rw [hchanges]; rfl) hlater (by rw [hjobs]; exact Nat.le_refl 0)
    (by rw [hstate]; rfl) hcall (by rw [htraces]; rfl) List.mem_cons_self
  have hold := htaken taken hfrom
  omega

end ServerRender.Session
