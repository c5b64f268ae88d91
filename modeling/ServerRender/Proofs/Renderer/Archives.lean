import ServerRender.Proofs.Renderer.Session

/-!
# The archives of a session

In every session the archives are those of the caches, although changes are published
one bundle at a time and installations are built long before they are put in place.
What carries this through is that each cache has at most one writer, that a writer has
read the registry after all that its cache had published by then, and that nobody else
publishes there until it is done.
-/

namespace ServerRender.Session

variable {World Environment : Type} {engine : Engine World Environment}

section Turns

variable {session next : Session World Environment} {action : Action World Environment}

/-- An archive never loses an entry. -/
theorem archive_of_turn (hturn : Turn engine session action next) {place : Nat}
    {archive : Archive} (harchive : session.archives[place]? = some archive) :
    ∃ later, next.archives[place]? = some later ∧ later.Extends archive := by
  cases hturn with
  | @publish index writtenPlace snapshot component core name source due installation written
      hchange hinstallation hwritten =>
      by_cases hplace : writtenPlace = place
      · subst hplace
        obtain rfl := Option.some.inj (hwritten.symm.trans harchive)
        have hlt := (List.getElem?_eq_some_iff.1 hwritten).1
        exact ⟨_, List.getElem?_set_self hlt, written.extends_add _⟩
      · exact ⟨archive, (List.getElem?_set_ne hplace).trans harchive, .refl archive⟩
  | install hrenewal =>
      have hlt := (List.getElem?_eq_some_iff.1 harchive).1
      exact ⟨archive, (List.getElem?_append_left hlt).trans harchive, .refl archive⟩
  | _ => exact ⟨archive, harchive, .refl archive⟩

end Turns

/-! ## Caches and their archives -/

structure Shelved (snapshots : List Sources) (caches : List CodeCache)
    (archives : List Archive) : Prop where
  length_eq : archives.length = caches.length
  recorded : ∀ {place : Nat} {cache : CodeCache} {archive : Archive},
    caches[place]? = some cache → archives[place]? = some archive →
    cache.Recorded snapshots archive
  built_lt : ∀ {place : Nat} {archive : Archive}, archives[place]? = some archive →
    archive.built < snapshots.length

/-- The writer of a cache has read a snapshot that nothing in the archive is later than,
and publishes from this one. -/
structure Writer (snapshots : List Sources) (caches : List CodeCache)
    (archives : List Archive) (place snapshot : Nat) (core : String)
    (due : List (String × String)) : Prop where
  place_lt : place < caches.length
  read : ∃ sources, snapshots[snapshot]? = some sources ∧
    (∀ component ∈ due, component ∈ CodeCache.componentsOf sources) ∧
    ∀ cache, caches[place]? = some cache → core = cache.coreSource sources
  latest : ∀ archive, archives[place]? = some archive → archive.built ≤ snapshot ∧
    ∀ publication ∈ archive.publications, publication.snapshot ≤ snapshot

namespace Shelved

variable {snapshots : List Sources} {caches : List CodeCache} {archives : List Archive}

theorem mono (hshelved : Shelved snapshots caches archives) (more : List Sources) :
    Shelved (snapshots ++ more) caches archives where
  length_eq := hshelved.length_eq
  recorded hcache harchive := (hshelved.recorded hcache harchive).mono
  built_lt harchive := by
    have hlt := hshelved.built_lt harchive
    rw [List.length_append]
    omega

theorem publish {place snapshot : Nat} {cache : CodeCache} {archive : Archive}
    {core name source : String} {due : List (String × String)}
    (hshelved : Shelved snapshots caches archives)
    (hwriter : Writer snapshots caches archives place snapshot core ((name, source) :: due))
    (hcache : caches[place]? = some cache) (harchive : archives[place]? = some archive) :
    Shelved snapshots (caches.set place (cache.publish core name source))
      (archives.set place (archive.add (cache.publication snapshot core name source))) where
  length_eq := by rw [List.length_set, List.length_set, hshelved.length_eq]
  recorded := by
    intro other found filed hfound hfiled
    rcases getElem?_set_cases hfound with ⟨rfl, rfl⟩ | ⟨hne, hold⟩
    · rcases getElem?_set_cases hfiled with ⟨-, rfl⟩ | ⟨hne, -⟩
      · obtain ⟨sources, hsnapshot, hdue, hcore⟩ := hwriter.read
        obtain ⟨hbuilt, hlatest⟩ := hwriter.latest archive harchive
        obtain rfl := hcore cache hcache
        exact (hshelved.recorded hcache harchive).publish hsnapshot
          (hdue _ List.mem_cons_self) hbuilt hlatest
      · exact absurd rfl hne
    · rw [List.getElem?_set_ne hne] at hfiled
      exact hshelved.recorded hold hfiled
  built_lt := by
    intro other filed hfiled
    rcases getElem?_set_cases hfiled with ⟨-, rfl⟩ | ⟨-, hold⟩
    · have hlt := hshelved.built_lt harchive
      exact hlt
    · exact hshelved.built_lt hold

theorem install {cache : CodeCache} {archive : Archive}
    (hshelved : Shelved snapshots caches archives)
    (hrecorded : cache.Recorded snapshots archive)
    (hbuilt : archive.built < snapshots.length) :
    Shelved snapshots (caches ++ [cache]) (archives ++ [archive]) where
  length_eq := by simp [hshelved.length_eq]
  recorded := by
    intro other found filed hfound hfiled
    have hlength := hshelved.length_eq
    rcases getElem?_append_cases hfound with hold | ⟨rfl, rfl⟩
    · have hlt := (List.getElem?_eq_some_iff.1 hold).1
      rw [List.getElem?_append_left (hlength ▸ hlt)] at hfiled
      exact hshelved.recorded hold hfiled
    · rcases getElem?_append_cases hfiled with hold | ⟨-, rfl⟩
      · have hlt := (List.getElem?_eq_some_iff.1 hold).1
        omega
      · exact hrecorded
  built_lt := by
    intro other filed hfiled
    rcases getElem?_append_cases hfiled with hold | ⟨-, rfl⟩
    · exact hshelved.built_lt hold
    · exact hbuilt

end Shelved

namespace Writer

variable {snapshots : List Sources} {caches : List CodeCache} {archives : List Archive}
variable {place snapshot : Nat} {core : String} {due : List (String × String)}

theorem mono (hwriter : Writer snapshots caches archives place snapshot core due)
    (more : List Sources) :
    Writer (snapshots ++ more) caches archives place snapshot core due := by
  refine { hwriter with read := ?_ }
  obtain ⟨sources, hsnapshot, hrest⟩ := hwriter.read
  have hlt := (List.getElem?_eq_some_iff.1 hsnapshot).1
  exact ⟨sources, (List.getElem?_append_left hlt).trans hsnapshot, hrest⟩

/-- Nobody else publishes to the cache of a writer. -/
theorem set_of_ne (hwriter : Writer snapshots caches archives place snapshot core due)
    {other : Nat} (hne : other ≠ place) (cache : CodeCache) (archive : Archive) :
    Writer snapshots (caches.set other cache) (archives.set other archive) place snapshot
      core due where
  place_lt := by
    rw [List.length_set]
    exact hwriter.place_lt
  read := by
    rw [List.getElem?_set_ne hne]
    exact hwriter.read
  latest := by
    rw [List.getElem?_set_ne hne]
    exact hwriter.latest

theorem publish {cache : CodeCache} {archive : Archive} {name source : String}
    (hwriter : Writer snapshots caches archives place snapshot core ((name, source) :: due))
    (hcache : caches[place]? = some cache) (harchive : archives[place]? = some archive) :
    Writer snapshots (caches.set place (cache.publish core name source))
      (archives.set place (archive.add (cache.publication snapshot core name source)))
      place snapshot core due where
  place_lt := by
    rw [List.length_set]
    exact hwriter.place_lt
  read := by
    obtain ⟨sources, hsnapshot, hdue, hcore⟩ := hwriter.read
    refine ⟨sources, hsnapshot,
      fun component hmem => hdue component (List.mem_cons_of_mem _ hmem), ?_⟩
    intro found hfound
    rcases getElem?_set_cases hfound with ⟨-, rfl⟩ | ⟨hne, -⟩
    · exact hcore cache hcache
    · exact absurd rfl hne
  latest := by
    intro filed hfiled
    obtain ⟨hbuilt, hlatest⟩ := hwriter.latest archive harchive
    rcases getElem?_set_cases hfiled with ⟨-, rfl⟩ | ⟨hne, -⟩
    · refine ⟨hbuilt, fun publication hmem => ?_⟩
      rcases List.mem_cons.1 hmem with rfl | hmem
      · exact Nat.le_refl snapshot
      · exact hlatest publication hmem
    · exact absurd rfl hne

theorem install (hwriter : Writer snapshots caches archives place snapshot core due)
    (hlength : archives.length = caches.length) (cache : CodeCache) (archive : Archive) :
    Writer snapshots (caches ++ [cache]) (archives ++ [archive]) place snapshot core
      due where
  place_lt := by
    rw [List.length_append]
    exact Nat.lt_add_right _ hwriter.place_lt
  read := by
    rw [List.getElem?_append_left hwriter.place_lt]
    exact hwriter.read
  latest := by
    rw [List.getElem?_append_left (hlength ▸ hwriter.place_lt)]
    exact hwriter.latest

end Writer

/-! ## Sessions -/

structure Filed (session : Session World Environment) : Prop where
  shelved : Shelved session.snapshots session.renderer.caches session.archives
  writer : ∀ {index place snapshot : Nat} {component core : String}
    {due : List (String × String)},
    session.changes[index]? = some ⟨component, .writing place snapshot core due⟩ →
    Writer session.snapshots session.renderer.caches session.archives place snapshot core due
  alone : ∀ {index other place : Nat} {change otherChange : Change},
    session.changes[index]? = some change → session.changes[other]? = some otherChange →
    change.isWriting place = true → otherChange.isWriting place = true → index = other
  built : ∀ {index : Nat} {fresh : Installation Environment} {archive : Archive},
    session.renewals[index]? = some (.built fresh archive) →
    fresh.cache.Recorded session.snapshots archive ∧
      archive.built < session.snapshots.length ∧ fresh.desk.contexts = []

theorem recorded_of_build {setup : Setup} {sources : Sources}
    {fresh : Installation Environment} {snapshots : List Sources} {snapshot : Nat}
    (hbuild : Installation.build setup sources = .ok fresh)
    (hsnapshot : snapshots[snapshot]? = some sources) :
    fresh.cache.Recorded snapshots
        (CodeCache.firstArchive setup.coreLibrary snapshot sources) ∧
      fresh.desk.contexts = [] := by
  simp only [Installation.build, bind, Except.bind, pure, Except.pure] at hbuild
  split at hbuild
  · contradiction
  · split at hbuild
    · contradiction
    · obtain rfl := Except.ok.inj hbuild
      exact ⟨.buildAll setup.coreLibrary hsnapshot, rfl⟩

namespace Filed

variable {session : Session World Environment}

theorem length_archives (hfiled : session.Filed) :
    session.archives.length = session.renderer.installations.length := by
  have hlength := hfiled.shelved.length_eq
  simpa [Renderer.caches] using hlength

/-- Every installation has its archive. -/
theorem exists_archive (hfiled : session.Filed) {place : Nat}
    {installation : Installation Environment}
    (hinstallation : session.renderer.installations[place]? = some installation) :
    ∃ archive, session.archives[place]? = some archive ∧
      installation.cache.Recorded session.snapshots archive := by
  have hlt := (List.getElem?_eq_some_iff.1 hinstallation).1
  have harchive := List.getElem?_eq_getElem (hfiled.length_archives ▸ hlt)
  exact ⟨_, harchive,
    hfiled.shelved.recorded (Renderer.cache_of_installation hinstallation) harchive⟩

/-- Every archive is that of an installation. -/
theorem exists_installation (hfiled : session.Filed) {place : Nat} {archive : Archive}
    (harchive : session.archives[place]? = some archive) :
    ∃ installation, session.renderer.installations[place]? = some installation ∧
      installation.cache.Recorded session.snapshots archive := by
  have hlt := (List.getElem?_eq_some_iff.1 harchive).1
  have hinstallation := List.getElem?_eq_getElem (hfiled.length_archives ▸ hlt)
  exact ⟨_, hinstallation,
    hfiled.shelved.recorded (Renderer.cache_of_installation hinstallation) harchive⟩

theorem start {world : World} {setup : Setup} {sources : Sources}
    (hstart : Session.start world setup sources = .ok session) : session.Filed := by
  obtain ⟨installation, hbuild, rfl⟩ := start_eq_ok hstart
  have hsnapshot : [sources][0]? = some sources := rfl
  obtain ⟨hrecorded, -⟩ := recorded_of_build hbuild hsnapshot
  refine ⟨⟨rfl, ?_, ?_⟩, by simp, by simp, by simp⟩
  · intro place cache archive hcache harchive
    obtain rfl := List.mem_singleton.1 (List.mem_of_getElem? hcache)
    obtain rfl := List.mem_singleton.1 (List.mem_of_getElem? harchive)
    exact hrecorded
  · intro place archive harchive
    obtain rfl := List.mem_singleton.1 (List.mem_of_getElem? harchive)
    rw [CodeCache.built_firstArchive]
    exact Nat.zero_lt_one

theorem of_same (hfiled : session.Filed) (renderer : Renderer World Environment)
    (hcaches : renderer.caches = session.renderer.caches) (sources : Sources)
    (traces : List Trace) : Filed { session with renderer, sources, traces } where
  shelved := hcaches ▸ hfiled.shelved
  writer hchange := hcaches ▸ hfiled.writer hchange
  alone := hfiled.alone
  built := hfiled.built

/-- Another snapshot is taken. -/
theorem snapshot (hfiled : session.Filed) (sources : Sources) :
    Filed { session with snapshots := session.snapshots ++ [sources] } where
  shelved := hfiled.shelved.mono [sources]
  writer hchange := (hfiled.writer hchange).mono [sources]
  alone := hfiled.alone
  built := by
    intro index fresh archive hrenewal
    obtain ⟨hrecorded, hlt, hcontexts⟩ := hfiled.built hrenewal
    refine ⟨hrecorded.mono, ?_, hcontexts⟩
    rw [List.length_append]
    exact Nat.lt_add_right _ hlt

theorem report (hfiled : session.Filed) (component : String) :
    Filed { session with changes := session.changes ++ [⟨component, .entering⟩] } where
  shelved := hfiled.shelved
  writer := by
    intro index place snapshot changed core due hchange
    rcases getElem?_append_cases hchange with hold | ⟨-, hnew⟩
    · exact hfiled.writer hold
    · simp at hnew
  alone := by
    intro index other place change otherChange hchange hother hwriting hotherWriting
    rcases getElem?_append_cases hchange with hold | ⟨-, rfl⟩
    · rcases getElem?_append_cases hother with hotherOld | ⟨-, rfl⟩
      · exact hfiled.alone hold hotherOld hwriting hotherWriting
      · contradiction
    · contradiction
  built := hfiled.built

/-- A change goes on to a stage in which it does not write. -/
theorem setChange (hfiled : session.Filed) {index : Nat} {change : Change}
    (hidle : ∀ place, change.isWriting place = false) :
    Filed { session with changes := session.changes.set index change } where
  shelved := hfiled.shelved
  writer := by
    intro other place snapshot changed core due hchange
    rcases getElem?_set_cases hchange with ⟨rfl, rfl⟩ | ⟨-, hold⟩
    · have hwriting := hidle place
      simp [Change.isWriting] at hwriting
    · exact hfiled.writer hold
  alone := by
    intro one other place found otherFound hfound hother hwriting hotherWriting
    rcases getElem?_set_cases hfound with ⟨-, rfl⟩ | ⟨-, hold⟩
    · rw [hidle place] at hwriting
      contradiction
    · rcases getElem?_set_cases hother with ⟨-, rfl⟩ | ⟨-, hotherOld⟩
      · rw [hidle place] at hotherWriting
        contradiction
      · exact hfiled.alone hold hotherOld hwriting hotherWriting
  built := hfiled.built

theorem isWriting_of_all {changes : List Change} {place index : Nat} {change : Change}
    (hfree : changes.all (fun change => !change.isWriting place) = true)
    (hchange : changes[index]? = some change) : change.isWriting place = false := by
  have hmem := List.mem_of_getElem? hchange
  simpa using List.all_eq_true.1 hfree change hmem

/-- A change becomes the writer of a cache that has none. -/
theorem read (hfiled : session.Filed) {index place : Nat} {component : String}
    {installation : Installation Environment} {due : List (String × String)}
    (hinstallation : session.renderer.installations[place]? = some installation)
    (hfree : session.changes.all (fun change => !change.isWriting place) = true)
    (hdue : installation.cache.due session.sources component = .ok due) :
    Filed { session with
      snapshots := session.snapshots ++ [session.sources]
      changes := session.changes.set index
        ⟨component, .writing place session.snapshots.length
          (installation.cache.coreSource session.sources) due⟩ } where
  shelved := hfiled.shelved.mono [session.sources]
  writer := by
    intro other otherPlace snapshot changed core otherDue hchange
    rcases getElem?_set_cases hchange with ⟨rfl, hnew⟩ | ⟨-, hold⟩
    · simp only [Change.mk.injEq, ChangeStage.writing.injEq] at hnew
      obtain ⟨rfl, rfl, rfl, rfl, rfl⟩ := hnew
      have hcache := Renderer.cache_of_installation hinstallation
      have hlt := (List.getElem?_eq_some_iff.1 hcache).1
      refine ⟨hlt, ⟨session.sources, by simp, ?_, ?_⟩, ?_⟩
      · obtain ⟨archive, -, hrecorded⟩ := hfiled.exists_archive hinstallation
        exact CodeCache.mem_componentsOf_of_due hrecorded hdue
      · intro cache hfound
        obtain rfl := Option.some.inj (hcache.symm.trans hfound)
        rfl
      · intro archive harchive
        refine ⟨Nat.le_of_lt (hfiled.shelved.built_lt harchive), fun publication hmem => ?_⟩
        exact Nat.le_of_lt ((hfiled.shelved.recorded hcache harchive).snapshot_lt hmem)
    · exact (hfiled.writer hold).mono [session.sources]
  alone := by
    have hothers : ∀ {other otherPlace : Nat} {found : Change},
        session.changes[other]? = some found → found.isWriting otherPlace = true →
        place ≠ otherPlace := by
      rintro other otherPlace found hfound hwriting rfl
      rw [isWriting_of_all hfree hfound] at hwriting
      contradiction
    intro one other otherPlace found otherFound hfound hother hwriting hotherWriting
    rcases getElem?_set_cases hfound with ⟨rfl, rfl⟩ | ⟨-, hold⟩
    · rcases getElem?_set_cases hother with ⟨rfl, -⟩ | ⟨-, hotherOld⟩
      · rfl
      · exact absurd (by simpa [Change.isWriting] using hwriting)
          (hothers hotherOld hotherWriting)
    · rcases getElem?_set_cases hother with ⟨-, rfl⟩ | ⟨-, hotherOld⟩
      · exact absurd (by simpa [Change.isWriting] using hotherWriting) (hothers hold hwriting)
      · exact hfiled.alone hold hotherOld hwriting hotherWriting
  built := (hfiled.snapshot session.sources).built

/-- The writer of a cache publishes the next bundle that is due. -/
theorem publish (hfiled : session.Filed) {index place snapshot : Nat}
    {component core name source : String} {due : List (String × String)}
    {installation : Installation Environment} {archive : Archive}
    (hchange : session.changes[index]? =
      some ⟨component, .writing place snapshot core ((name, source) :: due)⟩)
    (hinstallation : session.renderer.installations[place]? = some installation)
    (harchive : session.archives[place]? = some archive) :
    Filed { session with
      renderer := session.renderer.setCache place (installation.cache.publish core name source)
      archives := session.archives.set place
        (archive.add (installation.cache.publication snapshot core name source))
      changes := session.changes.set index ⟨component, .writing place snapshot core due⟩ } := by
  have hcache := Renderer.cache_of_installation hinstallation
  have hwriter := hfiled.writer hchange
  have hsame : ∀ {other otherPlace : Nat} {found : Change},
      (session.changes.set index ⟨component, .writing place snapshot core due⟩)[other]? =
        some found → found.isWriting otherPlace = true →
      ∃ before, session.changes[other]? = some before ∧ before.isWriting otherPlace = true := by
    intro other otherPlace found hfound hwriting
    rcases getElem?_set_cases hfound with ⟨rfl, rfl⟩ | ⟨-, hold⟩
    · exact ⟨_, hchange, hwriting⟩
    · exact ⟨found, hold, hwriting⟩
  refine ⟨?_, ?_, ?_, hfiled.built⟩
  · rw [Renderer.caches_setCache]
    exact hfiled.shelved.publish hwriter hcache harchive
  · intro other otherPlace otherSnapshot changed otherCore otherDue hother
    rw [Renderer.caches_setCache]
    rcases getElem?_set_cases hother with ⟨rfl, hnew⟩ | ⟨hne, hold⟩
    · simp only [Change.mk.injEq, ChangeStage.writing.injEq] at hnew
      obtain ⟨rfl, rfl, rfl, rfl, rfl⟩ := hnew
      exact hwriter.publish hcache harchive
    · refine (hfiled.writer hold).set_of_ne ?_ _ _
      rintro rfl
      exact hne (hfiled.alone hchange hold (isWriting_writing ..) (isWriting_writing ..))
  · intro one other otherPlace found otherFound hfound hother hwriting hotherWriting
    obtain ⟨before, hbefore, hbeforeWriting⟩ := hsame hfound hwriting
    obtain ⟨otherBefore, hotherBefore, hotherBeforeWriting⟩ := hsame hother hotherWriting
    exact hfiled.alone hbefore hotherBefore hbeforeWriting hotherBeforeWriting

/-- A renewal goes on to a stage in which it has nothing built. -/
theorem setRenewal (hfiled : session.Filed) {index : Nat} {renewal : Renewal Environment}
    (hidle : ∀ fresh archive, renewal ≠ .built fresh archive) :
    Filed { session with renewals := session.renewals.set index renewal } where
  shelved := hfiled.shelved
  writer := hfiled.writer
  alone := hfiled.alone
  built := by
    intro other fresh archive hrenewal
    rcases getElem?_set_cases hrenewal with ⟨-, rfl⟩ | ⟨-, hold⟩
    · exact absurd rfl (hidle fresh archive)
    · exact hfiled.built hold

theorem order (hfiled : session.Filed) (setup : Setup) :
    Filed { session with renewals := session.renewals ++ [.ordered setup] } where
  shelved := hfiled.shelved
  writer := hfiled.writer
  alone := hfiled.alone
  built := by
    intro other fresh archive hrenewal
    rcases getElem?_append_cases hrenewal with hold | ⟨-, hnew⟩
    · exact hfiled.built hold
    · contradiction

theorem build (hfiled : session.Filed) {index : Nat} {setup : Setup}
    {fresh : Installation Environment}
    (hbuild : Installation.build setup session.sources = .ok fresh) :
    Filed { session with
      snapshots := session.snapshots ++ [session.sources]
      renewals := session.renewals.set index
        (.built fresh (CodeCache.firstArchive setup.coreLibrary session.snapshots.length
          session.sources)) } where
  shelved := hfiled.shelved.mono [session.sources]
  writer := (hfiled.snapshot session.sources).writer
  alone := hfiled.alone
  built := by
    intro other otherFresh archive hrenewal
    rcases getElem?_set_cases hrenewal with ⟨-, hnew⟩ | ⟨-, hold⟩
    · obtain ⟨rfl, rfl⟩ := Renewal.built.inj hnew
      have hsnapshot : (session.snapshots ++ [session.sources])[session.snapshots.length]? =
          some session.sources := by simp
      obtain ⟨hrecorded, hcontexts⟩ := recorded_of_build hbuild hsnapshot
      exact ⟨hrecorded, by simp, hcontexts⟩
    · exact (hfiled.snapshot session.sources).built hold

theorem install (hfiled : session.Filed) {index : Nat} {fresh : Installation Environment}
    {archive : Archive} (hrenewal : session.renewals[index]? = some (.built fresh archive)) :
    Filed { session with
      renderer := session.renderer.install fresh
      archives := session.archives ++ [archive] } where
  shelved := by
    obtain ⟨hrecorded, hbuilt, -⟩ := hfiled.built hrenewal
    rw [Renderer.caches_install]
    exact hfiled.shelved.install hrecorded hbuilt
  writer := by
    intro other place snapshot component core due hchange
    rw [Renderer.caches_install]
    exact (hfiled.writer hchange).install hfiled.shelved.length_eq fresh.cache archive
  alone := hfiled.alone
  built := hfiled.built

end Filed

theorem filed_of_turn {session next : Session World Environment}
    {action : Action World Environment} (hfiled : session.Filed)
    (hturn : Turn engine session action next) : next.Filed := by
  cases hturn with
  | accept call => exact hfiled.of_same (session.renderer.accept call) rfl _ _
  | work hstep =>
      obtain ⟨before, after, -, hstride⟩ := Renderer.exists_stride_of_step hstep
      exact hfiled.of_same _ hstride.caches_eq _ _
  | serve hinstallation hserves hstep => exact hfiled.of_same _ Renderer.caches_setDesk _ _
  | edit sources => exact hfiled.of_same session.renderer rfl _ _
  | disturb world => exact hfiled.of_same { session.renderer with world } rfl _ _
  | report component => exact hfiled.report component
  | enter hchange => exact hfiled.setChange fun place => rfl
  | read hchange hinstallation hfree hdue => exact hfiled.read hinstallation hfree hdue
  | fail hchange hinstallation hfree hdue =>
      exact (hfiled.snapshot session.sources).setChange fun place => rfl
  | publish hchange hinstallation harchive =>
      exact hfiled.publish hchange hinstallation harchive
  | finish hchange => exact hfiled.setChange fun place => rfl
  | order setup => exact hfiled.order setup
  | build hrenewal hbuild => exact hfiled.build hbuild
  | reject hrenewal hbuild => exact hfiled.setRenewal (by simp)
  | install hrenewal =>
      exact (hfiled.install hrenewal).setRenewal (by simp)

theorem filed_of_reachable {session : Session World Environment}
    (hreach : Reachable engine session) : session.Filed :=
  hreach.induction .start fun _ hturn hfiled => filed_of_turn hfiled hturn

/-- A context was there before, or it is new, or a call has just worked on it. -/
theorem hasContext_cases_of_turn {session next : Session World Environment}
    {action : Action World Environment} (hfiled : session.Filed)
    (hturn : Turn engine session action next) {place : Nat}
    {context : ExecutionContext Environment}
    (hcontext : next.renderer.HasContext place context) :
    session.renderer.HasContext place context ∨
    (∃ number, context = .create number) ∨
    ∃ (job : Nat) (state : Job Environment) (attempt : Attempt)
      (reply : Reply (ExecutionContext Environment) (Except EngineError Work)),
      session.renderer.jobs[job]? = some state ∧ state.stage = .working attempt reply ∧
      attempt.installation = place ∧ context = reply.after := by
  cases hturn with
  | @work time job renderer events hstep =>
      obtain ⟨before, after, hbefore, hstride⟩ := Renderer.exists_stride_of_step hstep
      rcases hstride.hasContext hcontext with hold | ⟨attempt, reply, hworking, hplace, rfl⟩
      · exact .inl hold
      · exact .inr (.inr ⟨job, before, attempt, reply, hbefore, hworking, hplace, rfl⟩)
  | serve hinstallation hserves hstep =>
      rcases Renderer.hasContext_setDesk hcontext with hold | ⟨rfl, hmem⟩
      · exact .inl hold
      rcases Pool.Desk.mem_contexts_of_move (Pool.Desk.move_of_step hstep) hmem with
        hmem | ⟨maker, rfl⟩
      · exact .inl ⟨_, Renderer.desk_of_installation hinstallation, hmem⟩
      · obtain ⟨number, -, rfl⟩ := hserves
        exact .inr (.inl ⟨number, rfl⟩)
  | publish hchange hinstallation hwritten =>
      rw [Renderer.HasContext, Renderer.desks_setCache] at hcontext
      exact .inl hcontext
  | install hrenewal =>
      rcases Renderer.hasContext_install hcontext with hold | hmem
      · exact .inl hold
      · obtain ⟨-, -, hnone⟩ := hfiled.built hrenewal
        rw [hnone] at hmem
        contradiction
  | _ => exact .inl hcontext

end ServerRender.Session
