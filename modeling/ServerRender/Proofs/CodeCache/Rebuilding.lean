import Mathlib.Data.List.Induction
import Mathlib.Data.List.Sort
import ServerRender.Proofs.CodeCache.Workshop

/-!
# What a rebuild comes to

A writer publishes its bundles one by one, and others may come and wait, or change the
registry, between any two of them.  Still, what it has done when it gives the lock back is
what the cache does in one go with the registry as it was read.  From this the effect of
a changed core library follows: every bundle whose component the registry still provides
is replaced by a newer one with the new library, and no other bundle is touched.
-/

namespace ServerRender

namespace CodeCache

variable {cache : CodeCache} {core name source : String}
variable {components : List (String × String)}

theorem publishAll_concat (component : String × String) :
    cache.publishAll core (components ++ [component]) =
      (cache.publishAll core components).publish core component.1 component.2 := by
  simp [publishAll]

theorem generation_publishAll :
    (cache.publishAll core components).generation = cache.generation + components.length := by
  induction components using List.reverseRecOn with
  | nil => rfl
  | append_singleton components last ih =>
      rw [publishAll_concat, List.length_append]
      simp only [publish, ih, List.length_singleton]
      omega

/-- The bundle of a component that is not published stays as it is. -/
theorem get?_publishAll_of_not_mem (hname : ∀ source, (name, source) ∉ components) :
    (cache.publishAll core components).bundles.get? name = cache.bundles.get? name := by
  induction components using List.reverseRecOn with
  | nil => rfl
  | append_singleton components last ih =>
      have hlast : last.1 ≠ name := by
        rintro rfl
        exact hname last.2 (by simp)
      rw [publishAll_concat, publish, Table.get?_insert, if_neg hlast]
      exact ih fun source hmem => hname source (List.mem_append_left _ hmem)

/-- A component that is published has a new bundle, with a number that was not used
before. -/
theorem get?_publishAll_of_mem (core : String) (hmem : (name, source) ∈ components)
    (hsame : ∀ other, (name, other) ∈ components → other = source) :
    ∃ number, cache.generation < number ∧
      (cache.publishAll core components).bundles.get? name =
        some (.assemble name core source number) := by
  induction components using List.reverseRecOn with
  | nil => simp at hmem
  | append_singleton components last ih =>
      rw [publishAll_concat, publish, Table.get?_insert]
      by_cases hlast : last.1 = name
      · have hsource : last.2 = source := by
          apply hsame
          rw [← hlast]
          simp
        refine ⟨(cache.publishAll core components).generation + 1, ?_, ?_⟩
        · rw [generation_publishAll]
          omega
        · rw [if_pos hlast, hlast, hsource]
      · rw [if_neg hlast]
        have hearlier : (name, source) ∈ components := by
          rcases List.mem_append.mp hmem with hearlier | hnew
          · exact hearlier
          · rw [← List.mem_singleton.mp hnew] at hlast
            exact absurd rfl hlast
        exact ih hearlier fun other hother => hsame other (List.mem_append_left _ hother)

theorem mem_components_iff :
    name ∈ cache.components ↔ ∃ bundle, cache.get name = .ok bundle := by
  simp only [get_eq_ok_iff, components, ← Table.contains_iff_mem_keys, Table.contains,
    Option.isSome_iff_exists]

theorem mem_componentsOf_iff {sources : Sources} (hkeys : sources.keys.Nodup) :
    (name, source) ∈ componentsOf sources ↔
      name ≠ CodeBundle.coreComponent ∧ sources.get? name = some source := by
  rw [componentsOf, List.mem_filter, Table.mem_entries_iff hkeys, and_comm, bne_iff_ne]

theorem pairwise_componentsOf {sources : Sources} (hordered : sources.Ordered) :
    ((componentsOf sources).map Prod.fst).Pairwise (· < ·) := by
  have hsublist : ((componentsOf sources).map Prod.fst).Sublist sources.keys :=
    List.filter_sublist.map Prod.fst
  exact List.Pairwise.sublist hsublist hordered

theorem ordered_publishAll (hordered : cache.bundles.Ordered) :
    (cache.publishAll core components).bundles.Ordered := by
  induction components using List.reverseRecOn with
  | nil => exact hordered
  | append_singleton components last ih =>
      rw [publishAll_concat]
      exact ih.insert last.1 _

/-- A cache that was built from sources has the bundle of each component. -/
theorem get_buildAll {sources : Sources} (hordered : sources.Ordered) (library : String)
    (hmem : (name, source) ∈ componentsOf sources) :
    ∃ number, ((CodeCache.empty library).buildAll sources).1.get name =
      .ok (.assemble name ((sources.get? CodeBundle.coreComponent).getD library) source
        number) := by
  have hsame : ∀ other, (name, other) ∈ componentsOf sources → other = source := by
    intro other hother
    rw [mem_componentsOf_iff hordered.nodup] at hmem hother
    exact Option.some.inj (hother.2.symm.trans hmem.2)
  obtain ⟨number, -, hbundle⟩ := get?_publishAll_of_mem
    ((CodeCache.empty library).coreSource sources) hmem hsame
  exact ⟨number, get_eq_ok_iff.mpr hbundle⟩

/-- The components of a cache that was built from sources are those of the sources. -/
theorem components_buildAll {sources : Sources} (hordered : sources.Ordered)
    (library : String) :
    ((CodeCache.empty library).buildAll sources).1.components =
      (componentsOf sources).map Prod.fst := by
  have hantisymm : Std.Antisymm (fun first second : String => first < second) :=
    ⟨fun _ _ hlt hgt => absurd hgt (String.lt_asymm hlt)⟩
  have hbuilt : ((CodeCache.empty library).buildAll sources).1.bundles.Ordered :=
    ordered_publishAll Table.ordered_empty
  apply List.Pairwise.eq_of_mem_iff hbuilt (pairwise_componentsOf hordered)
  intro name
  rw [← components, mem_components_iff, List.mem_map]
  constructor
  · rintro ⟨bundle, hget⟩
    by_contra hnone
    rw [get_eq_ok_iff, buildAll, get?_publishAll_of_not_mem] at hget
    · contradiction
    · intro source hmem
      exact hnone ⟨(name, source), hmem, rfl⟩
  · rintro ⟨⟨_, source⟩, hmem, rfl⟩
    obtain ⟨number, hget⟩ := get_buildAll hordered library hmem
    exact ⟨_, hget⟩

/-- What a changed core library makes due is what the cache has and the sources provide. -/
theorem mem_cachedSources_iff {sources : Sources} :
    (name, source) ∈ cache.cachedSources sources ↔
      (∃ bundle, cache.get name = .ok bundle) ∧ sources.get? name = some source := by
  rw [← mem_components_iff, cachedSources, List.mem_filterMap]
  constructor
  · rintro ⟨key, hkey, hmap⟩
    obtain ⟨found, hfound, hentry⟩ := Option.map_eq_some_iff.mp hmap
    obtain ⟨rfl, rfl⟩ := Prod.ext_iff.mp hentry
    exact ⟨hkey, hfound⟩
  · rintro ⟨hkey, hsource⟩
    exact ⟨name, hkey, by rw [hsource]; rfl⟩

/-- Every bundle whose component the sources still have is replaced by a newer one that
holds the core library of these sources.  The others are left as they are. -/
structure CoreReplaced (before : CodeCache) (library : String) (sources : Sources)
    (after : CodeCache) : Prop where
  rebuilt : ∀ {name source : String} {bundle : CodeBundle}, before.get name = .ok bundle →
    sources.get? name = some source →
    ∃ number, bundle.generation < number ∧
      after.get name = .ok (.assemble name
        ((sources.get? CodeBundle.coreComponent).getD library) source number)
  kept : ∀ {name : String} {bundle : CodeBundle}, before.get name = .ok bundle →
    sources.get? name = none → after.get name = .ok bundle
  known : ∀ {name : String} {bundle : CodeBundle}, after.get name = .ok bundle →
    ∃ older, before.get name = .ok older

/-- The order in which the bundles are published does not matter. -/
theorem coreReplaced_publishAll {library : String} {sources : Sources}
    (hlibrary : cache.coreLibrary = library)
    (hnumbers : ∀ name bundle, cache.get name = .ok bundle →
      bundle.generation ≤ cache.generation)
    (hcomponents : components.Perm (cache.cachedSources sources)) :
    cache.CoreReplaced library sources
      (cache.publishAll (cache.coreSource sources) components) where
  rebuilt := by
    intro name source bundle hget hsource
    have hmem : (name, source) ∈ components :=
      hcomponents.mem_iff.mpr (mem_cachedSources_iff.mpr ⟨⟨bundle, hget⟩, hsource⟩)
    have hsame : ∀ other, (name, other) ∈ components → other = source := by
      intro other hother
      have hfound := (mem_cachedSources_iff.mp (hcomponents.mem_iff.mp hother)).2
      exact Option.some.inj (hfound.symm.trans hsource)
    obtain ⟨number, hlt, hnewer⟩ :=
      get?_publishAll_of_mem (cache.coreSource sources) hmem hsame
    refine ⟨number, Nat.lt_of_le_of_lt (hnumbers name bundle hget) hlt, ?_⟩
    rw [get_eq_ok_iff, hnewer, coreSource, hlibrary]
  kept := by
    intro name bundle hget hnone
    rw [get_eq_ok_iff, get?_publishAll_of_not_mem, ← get_eq_ok_iff]
    · exact hget
    · intro source hmem
      have hsource := (mem_cachedSources_iff.mp (hcomponents.mem_iff.mp hmem)).2
      rw [hnone] at hsource
      contradiction
  known := by
    intro name bundle hget
    by_cases hmem : ∃ source, (name, source) ∈ components
    · obtain ⟨source, hmem⟩ := hmem
      exact (mem_cachedSources_iff.mp (hcomponents.mem_iff.mp hmem)).1
    · refine ⟨bundle, ?_⟩
      rw [get_eq_ok_iff, get?_publishAll_of_not_mem fun source hsource => hmem ⟨source, hsource⟩]
        at hget
      exact get_eq_ok_iff.mpr hget

end CodeCache

/-! ## A writer while it has the lock -/

namespace Workshop

variable {before workshop next later : Workshop} {library : String}
variable {index other : Nat} {order : Order} {stage : Stage}

/-- Between the moment at which a writer got the lock and a later one it has published the
first part of what is due, from a snapshot that it has taken itself. -/
structure Underway (before : Workshop) (order : Order) (workshop : Workshop)
    (snapshot : Nat) (core : String) (published due : List (String × String)) : Prop where
  since : before.snapshots.length ≤ snapshot
  planned : ∃ sources all, workshop.snapshots[snapshot]? = some sources ∧
    core = before.cache.coreSource sources ∧ order.due before.cache sources = .ok all ∧
    (published ++ due).Perm all
  covered : ∀ component ∈ published, workshop.archive.Covers component.1 snapshot

def Stage.Since (before : Workshop) (order : Order) (workshop : Workshop) : Stage → Prop
  | waiting => False
  | locked =>
    workshop.cache = before.cache ∧ before.snapshots.length ≤ workshop.snapshots.length
  | planning snapshot => workshop.cache = before.cache ∧ before.snapshots.length ≤ snapshot
  | writing snapshot core due =>
    ∃ published, before.Underway order workshop snapshot core published due ∧
      workshop.cache = before.cache.publishAll core published
  | placing snapshot core name source number due =>
    ∃ published, before.Underway order workshop snapshot core published
        ((name, source) :: due) ∧
      workshop.cache = (before.cache.publishAll core published).takeNumber ∧
      number = workshop.cache.generation
  | done _ => True
  | failed _ => True

theorem Underway.mono {snapshot : Nat} {core : String} {published due : List (String × String)}
    {more : List Sources}
    (hunderway : before.Underway order workshop snapshot core published due)
    (hsnapshots : next.snapshots = workshop.snapshots ++ more)
    (harchive : next.archive.Extends workshop.archive) :
    before.Underway order next snapshot core published due where
  since := hunderway.since
  planned := by
    obtain ⟨sources, all, hsnapshot, hrest⟩ := hunderway.planned
    refine ⟨sources, all, ?_, hrest⟩
    rw [hsnapshots, List.getElem?_append_left (List.getElem?_eq_some_iff.mp hsnapshot).1]
    exact hsnapshot
  covered component hmem := harchive.covers (hunderway.covered component hmem)

/-- What is done without the lock does not matter to the writer that has it. -/
theorem Stage.Since.mono {more : List Sources} (hsince : stage.Since before order workshop)
    (hcache : next.cache = workshop.cache)
    (hsnapshots : next.snapshots = workshop.snapshots ++ more)
    (harchive : next.archive = workshop.archive) : stage.Since before order next := by
  have hextends : next.archive.Extends workshop.archive := harchive ▸ .refl _
  cases stage with
  | waiting => exact hsince
  | locked =>
      refine ⟨hcache.trans hsince.1, ?_⟩
      rw [hsnapshots, List.length_append]
      exact Nat.le_add_right_of_le hsince.2
  | planning snapshot => exact ⟨hcache.trans hsince.1, hsince.2⟩
  | writing snapshot core due =>
      obtain ⟨published, hunderway, hpublished⟩ := hsince
      exact ⟨published, hunderway.mono hsnapshots hextends, hcache.trans hpublished⟩
  | placing snapshot core name source number due =>
      obtain ⟨published, hunderway, hpublished, hnumber⟩ := hsince
      exact ⟨published, hunderway.mono hsnapshots hextends, hcache.trans hpublished,
        hnumber.trans (congrArg CodeCache.generation hcache.symm)⟩
  | done snapshot => trivial
  | failed error => trivial

/-- A turn for which the lock is needed is one of the writer itself. -/
theorem since_of_acting (hkept : workshop.Kept library)
    (hwriter : workshop.writers[index]? = some ⟨order, stage⟩)
    (hsince : stage.Since before order workshop) {acting : Order} {earlier after : Stage}
    (hacting : workshop.writers[other]? = some ⟨acting, earlier⟩)
    (hlock : earlier.hasLock = true)
    (hwriters : next.writers = workshop.writers.set other ⟨acting, after⟩)
    (hown : earlier.Since before acting workshop → after.Since before acting next) :
    ∃ after, next.writers[index]? = some ⟨order, after⟩ ∧ after.Since before order next := by
  rw [hwriters]
  by_cases hsame : other = index
  · subst hsame
    obtain ⟨rfl, rfl⟩ := Writer.mk.inj (Option.some.inj (hacting.symm.trans hwriter))
    have hindex := (List.getElem?_eq_some_iff.mp hwriter).1
    exact ⟨after, List.getElem?_set_self hindex, hown hsince⟩
  · refine ⟨stage, (List.getElem?_set_ne hsame).trans hwriter, ?_⟩
    cases hstage : stage.hasLock with
    | true => exact absurd (hkept.alone hacting hwriter hlock hstage) hsame
    | false => cases stage <;> trivial

theorem Underway.cover {snapshot : Nat} {core name source : String} {number : Nat}
    {published due : List (String × String)}
    (hunderway : before.Underway order workshop snapshot core published
      ((name, source) :: due))
    (hsnapshots : next.snapshots = workshop.snapshots)
    (harchive : next.archive =
      workshop.archive.add ⟨.assemble name core source number, snapshot⟩) :
    before.Underway order next snapshot core (published ++ [(name, source)]) due where
  since := hunderway.since
  planned := by
    rw [hsnapshots, List.append_assoc]
    exact hunderway.planned
  covered := by
    intro component hmem
    rw [harchive]
    rcases List.mem_append.mp hmem with hearlier | hlast
    · exact (Archive.extends_add _ _).covers (hunderway.covered component hearlier)
    · rw [List.mem_singleton.mp hlast]
      exact ⟨_, List.mem_cons_self, rfl, Nat.le_refl snapshot⟩

theorem since_of_turn (hkept : workshop.Kept library) (hturn : Turn workshop next)
    (hwriter : workshop.writers[index]? = some ⟨order, stage⟩)
    (hsince : stage.Since before order workshop) :
    ∃ after, next.writers[index]? = some ⟨order, after⟩ ∧ after.Since before order next := by
  cases hturn with
  | edit sources hkeys =>
      exact ⟨stage, hwriter, hsince.mono rfl (List.append_nil _).symm rfl⟩
  | call newcomer =>
      refine ⟨stage, ?_, hsince.mono rfl (List.append_nil _).symm rfl⟩
      rw [List.getElem?_append_left (List.getElem?_eq_some_iff.mp hwriter).1]
      exact hwriter
  | lock other hother hfree =>
      by_cases hsame : other = index
      · subst hsame
        obtain ⟨rfl, rfl⟩ := Writer.mk.inj (Option.some.inj (hother.symm.trans hwriter))
        exact hsince.elim
      · exact ⟨stage, (List.getElem?_set_ne hsame).trans hwriter,
          hsince.mono rfl (List.append_nil _).symm rfl⟩
  | read other hother =>
      exact since_of_acting hkept hwriter hsince hother rfl rfl id
  | plan other hother hsnapshot hdue hperm =>
      refine since_of_acting hkept hwriter hsince hother rfl rfl ?_
      rintro ⟨hcache, htaken⟩
      rw [hcache] at hdue
      refine ⟨[], ⟨htaken, ⟨_, _, hsnapshot, ?_, hdue, hperm⟩, by simp⟩, hcache⟩
      rw [hcache]
  | fail other hother hsnapshot hdue =>
      exact since_of_acting hkept hwriter hsince hother rfl rfl fun _ => trivial
  | number other hother =>
      refine since_of_acting hkept hwriter hsince hother rfl rfl ?_
      rintro ⟨published, hunderway, hpublished⟩
      exact ⟨published, hunderway.mono (List.append_nil _).symm (.refl _),
        congrArg CodeCache.takeNumber hpublished, rfl⟩
  | place other hother =>
      refine since_of_acting hkept hwriter hsince hother rfl rfl ?_
      rintro ⟨published, hunderway, hpublished, rfl⟩
      refine ⟨published ++ [_], hunderway.cover rfl rfl, ?_⟩
      rw [CodeCache.publishAll_concat, CodeCache.publish_eq_place, ← hpublished]
  | unlock other hother =>
      exact since_of_acting hkept hwriter hsince hother rfl rfl fun _ => trivial

theorem since_of_reaches (hreach : Reachable library before)
    (hlocked : before.writers[index]? = some ⟨order, .locked⟩) (hlater : Reaches before later) :
    ∃ stage, later.writers[index]? = some ⟨order, stage⟩ ∧ stage.Since before order later := by
  induction hlater with
  | refl => exact ⟨.locked, hlocked, rfl, Nat.le_refl _⟩
  | tail hreaches hturn ih =>
      obtain ⟨stage, hwriter, hsince⟩ := ih
      exact since_of_turn (kept_of_reachable (hreach.trans hreaches)) hturn hwriter hsince

/-- When a writer is about to give the lock back, it has made of the cache what the cache
would have become in one go, but for the order in which the bundles are published. -/
theorem exists_publishAll_of_writing (hreach : Reachable library before)
    (hlocked : before.writers[index]? = some ⟨order, .locked⟩) (hlater : Reaches before later)
    {snapshot : Nat} {core : String}
    (hwriting : later.writers[index]? = some ⟨order, .writing snapshot core []⟩) :
    ∃ sources all published, before.snapshots.length ≤ snapshot ∧
      later.snapshots[snapshot]? = some sources ∧
      order.due before.cache sources = .ok all ∧ published.Perm all ∧
      later.cache = before.cache.publishAll (before.cache.coreSource sources) published ∧
      ∀ component ∈ published, later.archive.Covers component.1 snapshot := by
  obtain ⟨stage, hwriter, hsince⟩ := since_of_reaches hreach hlocked hlater
  obtain rfl := (Writer.mk.inj (Option.some.inj (hwriter.symm.trans hwriting))).2
  obtain ⟨published, ⟨htaken, ⟨sources, all, hsnapshot, rfl, hdue, hperm⟩, hcovered⟩,
    hpublished⟩ := hsince
  rw [List.append_nil] at hperm
  exact ⟨sources, all, published, htaken, hsnapshot, hdue, hperm, hpublished, hcovered⟩

/-! ## A changed core library -/

theorem generation_le_of_get (hreach : Reachable library workshop) {name : String}
    {bundle : CodeBundle} (hget : workshop.cache.get name = .ok bundle) :
    bundle.generation ≤ workshop.cache.generation := by
  have hconsistent := consistent_of_kept (kept_of_reachable hreach)
  obtain ⟨-, snapshot, hpublished, -⟩ := hconsistent.shown hget
  exact hconsistent.generation_le hpublished

/-- The bundle of a component that was published anew is never replaced by one that is
older, or from an earlier snapshot. -/
theorem exists_newer_of_covers (hreach : Reachable library workshop)
    (hlater : Reaches workshop later) {name : String} {bundle : CodeBundle} {snapshot : Nat}
    (hget : workshop.cache.get name = .ok bundle)
    (hcovers : workshop.archive.Covers name snapshot) :
    ∃ newer newest sources source, later.cache.get name = .ok newer ∧
      bundle.generation ≤ newer.generation ∧ snapshot ≤ newest ∧
      later.snapshots[newest]? = some sources ∧ sources.get? name = some source ∧
      newer = .assemble name ((sources.get? CodeBundle.coreComponent).getD library) source
        newer.generation := by
  have hkept : later.Kept library := kept_of_reachable (hreach.trans hlater)
  obtain ⟨hname, published, hpublished, -⟩ :=
    (consistent_of_kept (kept_of_reachable hreach)).shown hget
  have hextends := extends_of_reaches hlater
  obtain ⟨⟨newer, newest⟩, hmem, hshown, hsnapshot⟩ :=
    hkept.recorded.exists_bundle_of_covers (hextends.covers hcovers)
  have hlaterGet : later.cache.get name = .ok newer := CodeCache.get_eq_ok_iff.mpr hshown
  obtain ⟨rfl, _, -, hnewest⟩ := (consistent_of_kept hkept).shown hlaterGet
  have hgeneration := (hnewest bundle published (hextends.mem _ hpublished) hname).1
  obtain ⟨sources, source, htaken, hsource, htext⟩ := exists_source_of_published hkept hmem
  refine ⟨newer, newest, sources, source, hlaterGet, hgeneration, hsnapshot, htaken, hsource, ?_⟩
  rw [CodeBundle.assemble, ← htext]

/-- When the core library has changed, every cached bundle whose component the registry
still provides is replaced by a newer one that holds the core library as the registry had
it when it was read.  The bundles of other components stay as they are.  That is so for
one cache alone, and for a cache with any number of writers from the moment at which one
of them gets the lock to the moment at which it gives it back; and what was replaced is
not brought back later. -/
theorem core_change_replaces_bundles (hreach : Reachable library workshop) :
    (∀ sources, ∃ after,
      workshop.cache.invalidate sources CodeBundle.coreComponent = .ok after ∧
      workshop.cache.CoreReplaced library sources after) ∧
    ∀ {index snapshot : Nat} {core : String} {finished : Workshop},
      workshop.writers[index]? = some ⟨.component CodeBundle.coreComponent, .locked⟩ →
      Reaches workshop finished →
      finished.writers[index]? =
        some ⟨.component CodeBundle.coreComponent, .writing snapshot core []⟩ →
      ∃ sources, workshop.snapshots.length ≤ snapshot ∧
        finished.snapshots[snapshot]? = some sources ∧
        workshop.cache.CoreReplaced library sources finished.cache ∧
        ∀ {later : Workshop}, Reaches finished later → ∀ {name : String} {bundle : CodeBundle},
          workshop.cache.get name = .ok bundle → (sources.get? name).isSome →
          ∃ newer newest sources source, later.cache.get name = .ok newer ∧
            bundle.generation < newer.generation ∧ snapshot ≤ newest ∧
            later.snapshots[newest]? = some sources ∧ sources.get? name = some source ∧
            newer = .assemble name ((sources.get? CodeBundle.coreComponent).getD library)
              source newer.generation := by
  have hnumbers : ∀ name bundle, workshop.cache.get name = .ok bundle →
      bundle.generation ≤ workshop.cache.generation :=
    fun name bundle => generation_le_of_get hreach
  have hlibrary := (kept_of_reachable hreach).library_eq
  refine ⟨fun sources => ⟨_, ?_, CodeCache.coreReplaced_publishAll hlibrary hnumbers (.refl _)⟩,
    ?_⟩
  · rw [CodeCache.invalidate, if_pos rfl]
  intro index snapshot core finished hlocked hreaches hwriting
  obtain ⟨sources, all, published, htaken, hsnapshot, hdue, hperm, hcache, hcovered⟩ :=
    exists_publishAll_of_writing hreach hlocked hreaches hwriting
  obtain rfl : workshop.cache.cachedSources sources = all := Except.ok.inj hdue
  have hreplaced : workshop.cache.CoreReplaced library sources finished.cache := by
    rw [hcache]
    exact CodeCache.coreReplaced_publishAll hlibrary hnumbers hperm
  refine ⟨sources, htaken, hsnapshot, hreplaced, ?_⟩
  intro later hlater name bundle hget hprovided
  obtain ⟨source, hsource⟩ := Option.isSome_iff_exists.mp hprovided
  obtain ⟨number, hlt, hrebuilt⟩ := hreplaced.rebuilt hget hsource
  have hmem : (name, source) ∈ published :=
    hperm.mem_iff.mpr (CodeCache.mem_cachedSources_iff.mpr ⟨⟨bundle, hget⟩, hsource⟩)
  have hfinished : Reachable library finished := by
    obtain ⟨first, hkeys, hstart⟩ := hreach
    exact ⟨first, hkeys, hstart.trans hreaches⟩
  obtain ⟨newer, newest, later, text, hnewer, hgeneration, hrest⟩ :=
    exists_newer_of_covers hfinished hlater hrebuilt (hcovered _ hmem)
  exact ⟨newer, newest, later, text, hnewer, Nat.lt_of_lt_of_le hlt hgeneration, hrest⟩

/-- A cache was built from two components.  Since then one of them has gone from the
registry, which now has a core library instead, and a writer that is to take it over has
got the lock. -/
def coreEdited : Workshop where
  cache := ((CodeCache.empty "").buildAll ⟨[("A", "a"), ("B", "b")]⟩).1
  sources := ⟨[("A", "a"), ("Core", "library")]⟩
  snapshots := [⟨[("A", "a"), ("B", "b")]⟩]
  archive := CodeCache.firstArchive "" 0 ⟨[("A", "a"), ("B", "b")]⟩
  writers := [⟨.everything, .done 0⟩, ⟨.component CodeBundle.coreComponent, .locked⟩]

theorem reachable_coreEdited : Reachable "" coreEdited :=
  ⟨⟨[("A", "a"), ("B", "b")]⟩, by decide,
    ((((((((((((Relation.ReflTransGen.refl.tail
      (.call .everything)).tail
      (.lock 0 rfl (by simp [IsFree, start, Stage.hasLock]))).tail
      (.read 0 rfl)).tail
      (.plan 0 rfl rfl rfl (.refl _))).tail
      (.number 0 rfl)).tail
      (.place 0 rfl)).tail
      (.number 0 rfl)).tail
      (.place 0 rfl)).tail
      (.unlock 0 rfl)).tail
      (.edit ⟨[("A", "a"), ("Core", "library")]⟩ (by decide))).tail
      (.call (.component CodeBundle.coreComponent))).tail
      (.lock 1 rfl (by simp [IsFree, start, Stage.hasLock])))⟩

/-- The component that the registry still has gets the core library. -/
theorem core_replaced_of_coreEdited :
    ∃ finished sources, Reaches coreEdited finished ∧
      finished.writers[1]? =
        some ⟨.component CodeBundle.coreComponent, .writing 1 "library" []⟩ ∧
      finished.snapshots[1]? = some sources ∧
      coreEdited.cache.CoreReplaced "" sources finished.cache ∧
      finished.cache.get "A" = .ok (.assemble "A" "library" "a" 3) ∧
      finished.cache.get "B" = .ok (.assemble "B" "" "b" 2) := by
  have hlocked : coreEdited.writers[1]? =
      some ⟨.component CodeBundle.coreComponent, .locked⟩ := rfl
  have hread : Turn coreEdited _ := .read 1 hlocked
  obtain ⟨finished, hfinished, hwriting, hrebuilt, hleft⟩ :
      ∃ finished, Reaches coreEdited finished ∧
        finished.writers[1]? =
          some ⟨.component CodeBundle.coreComponent, .writing 1 "library" []⟩ ∧
        finished.cache.get "A" = .ok (.assemble "A" "library" "a" 3) ∧
        finished.cache.get "B" = .ok (.assemble "B" "" "b" 2) :=
    ⟨_, ((((Relation.ReflTransGen.single hread).tail
      (.plan 1 rfl rfl rfl (.refl _))).tail
      (.number 1 rfl)).tail
      (.place 1 rfl)), rfl, rfl, rfl⟩
  obtain ⟨sources, -, hsnapshot, hreplaced, -⟩ :=
    (core_change_replaces_bundles reachable_coreEdited).2 hlocked hfinished hwriting
  exact ⟨finished, sources, hfinished, hwriting, hsnapshot, hreplaced, hrebuilt, hleft⟩

/-- Not every bundle of a cache gets the core library: one whose component has gone from
the registry stays as it is. -/
theorem core_not_replaced_of_coreEdited :
    ¬ ∀ (library : String) (workshop : Workshop) (sources : Sources) (after : CodeCache),
      Reachable library workshop →
      workshop.cache.invalidate sources CodeBundle.coreComponent = .ok after →
      ∀ (name : String) (newer : CodeBundle), after.get name = .ok newer →
        (∀ older, workshop.cache.get name = .ok older → older.generation < newer.generation) ∧
        ∃ source, newer = .assemble name
          ((sources.get? CodeBundle.coreComponent).getD library) source newer.generation := by
  intro hall
  have hgrown := (hall "" coreEdited coreEdited.sources _ reachable_coreEdited rfl "B" _ rfl).1
  exact Nat.lt_irrefl _ (hgrown _ rfl)

end Workshop

end ServerRender
