import Mathlib.Data.List.Nodup
import ServerRender.CodeCache
import ServerRender.Proofs.Tables

/-!
# The archive of a code cache

A cache keeps only the latest bundle of each component.  Its archive keeps all that it
has ever published, with the snapshot of the registry that each bundle was assembled
from.  A cache that is in line with its archive shows for each component the last entry
with its name, and neither generations nor snapshots ever run backwards.
-/

namespace ServerRender

/-- A bundle with the number of the snapshot that it was assembled from. -/
structure Publication where
  bundle : CodeBundle
  snapshot : Nat

structure Archive where
  /-- The number of the snapshot that the cache was set up with. -/
  built : Nat
  /-- All that was published, the latest first. -/
  publications : List Publication

/-- The bundle holds the sources of its snapshot, with the library where the registry
had no core of its own. -/
def Publication.Assembled (snapshots : List Sources) (library : String)
    (publication : Publication) : Prop :=
  ∃ sources source, snapshots[publication.snapshot]? = some sources ∧
    (publication.bundle.component, source) ∈ CodeCache.componentsOf sources ∧
    publication.bundle =
      .assemble publication.bundle.component
        ((sources.get? CodeBundle.coreComponent).getD library) source
        publication.bundle.generation

namespace Archive

def add (archive : Archive) (publication : Publication) : Archive :=
  { archive with publications := publication :: archive.publications }

def Has (archive : Archive) (bundle : CodeBundle) : Prop :=
  ∃ publication ∈ archive.publications, publication.bundle = bundle

/-- Something of a component was published from this snapshot or a later one. -/
def Covers (archive : Archive) (component : String) (snapshot : Nat) : Prop :=
  ∃ publication ∈ archive.publications,
    publication.bundle.component = component ∧ snapshot ≤ publication.snapshot

/-- The later archive has all the entries of the earlier one. -/
structure Extends (later earlier : Archive) : Prop where
  built_eq : later.built = earlier.built
  mem : ∀ publication ∈ earlier.publications, publication ∈ later.publications

namespace Extends

variable {later middle earlier : Archive}

theorem refl (archive : Archive) : archive.Extends archive :=
  ⟨rfl, fun _ hmem => hmem⟩

theorem trans (hlater : later.Extends middle) (hearlier : middle.Extends earlier) :
    later.Extends earlier :=
  ⟨hlater.built_eq.trans hearlier.built_eq,
    fun publication hmem => hlater.mem publication (hearlier.mem publication hmem)⟩

theorem has {bundle : CodeBundle} (hextends : later.Extends earlier)
    (hhas : earlier.Has bundle) : later.Has bundle := by
  obtain ⟨publication, hmem, hbundle⟩ := hhas
  exact ⟨publication, hextends.mem publication hmem, hbundle⟩

theorem covers {component : String} {snapshot : Nat} (hextends : later.Extends earlier)
    (hcovers : earlier.Covers component snapshot) : later.Covers component snapshot := by
  obtain ⟨publication, hmem, hcomponent, hle⟩ := hcovers
  exact ⟨publication, hextends.mem publication hmem, hcomponent, hle⟩

end Extends

theorem extends_add (archive : Archive) (publication : Publication) :
    (archive.add publication).Extends archive :=
  ⟨rfl, fun _ hmem => List.mem_cons_of_mem publication hmem⟩

end Archive

namespace CodeCache

def publication (cache : CodeCache) (snapshot : Nat) (core name source : String) :
    Publication :=
  ⟨.assemble name core source (cache.generation + 1), snapshot⟩

def archiveAll (cache : CodeCache) (archive : Archive) (snapshot : Nat) (core : String) :
    List (String × String) → Archive
  | [] => archive
  | (name, source) :: rest =>
    archiveAll (cache.publish core name source)
      (archive.add (cache.publication snapshot core name source)) snapshot core rest

def firstArchive (library : String) (snapshot : Nat) (sources : Sources) : Archive :=
  (CodeCache.empty library).archiveAll ⟨snapshot, []⟩ snapshot
    ((CodeCache.empty library).coreSource sources) (componentsOf sources)

theorem extends_archiveAll (cache : CodeCache) (archive : Archive) (snapshot : Nat)
    (core : String) (components : List (String × String)) :
    (cache.archiveAll archive snapshot core components).Extends archive := by
  induction components generalizing cache archive with
  | nil => exact .refl archive
  | cons component rest ih => exact (ih _ _).trans (archive.extends_add _)

@[simp]
theorem built_firstArchive (library : String) (snapshot : Nat) (sources : Sources) :
    (firstArchive library snapshot sources).built = snapshot :=
  (extends_archiveAll _ _ _ _ _).built_eq

/-- Of all entries that have a property, the first one precedes the others. -/
private theorem eq_or_rel_of_find? {α : Type} {precedes : α → α → Prop} {holds : α → Bool}
    {entries : List α} {found other : α} (hordered : entries.Pairwise precedes)
    (hfound : entries.find? holds = some found) (hmem : other ∈ entries)
    (hother : holds other = true) : other = found ∨ precedes found other := by
  induction hordered with
  | nil => contradiction
  | @cons head rest hhead hrest ih =>
      rw [List.find?_cons] at hfound
      split at hfound
      · obtain rfl := Option.some.inj hfound
        exact (List.mem_cons.1 hmem).imp_right (hhead other)
      · next hskipped =>
          rcases List.mem_cons.1 hmem with rfl | hmem
          · rw [hskipped] at hother
            contradiction
          · exact ih hfound hmem

/-- The archive is that of the cache: what the cache has is the latest of what it has
published, in the order of generations and of snapshots. -/
structure Recorded (snapshots : List Sources) (cache : CodeCache) (archive : Archive) :
    Prop where
  numbered : archive.publications.Pairwise fun later earlier =>
    earlier.bundle.generation < later.bundle.generation
  number_le : ∀ publication ∈ archive.publications,
    publication.bundle.generation ≤ cache.generation
  dated : archive.publications.Pairwise fun later earlier =>
    earlier.snapshot ≤ later.snapshot
  built_le : ∀ publication ∈ archive.publications, archive.built ≤ publication.snapshot
  assembled : ∀ publication ∈ archive.publications,
    publication.Assembled snapshots cache.coreLibrary
  latest : ∀ name, cache.bundles.get? name =
    (archive.publications.find? fun publication =>
      publication.bundle.component == name).map Publication.bundle

namespace Recorded

variable {snapshots : List Sources} {cache : CodeCache} {archive : Archive}

theorem empty (library : String) (snapshot : Nat) :
    Recorded snapshots (CodeCache.empty library) ⟨snapshot, []⟩ where
  numbered := .nil
  number_le := by simp
  dated := .nil
  built_le := by simp
  assembled := by simp
  latest name := rfl

theorem mono {more : List Sources} (hrecorded : Recorded snapshots cache archive) :
    Recorded (snapshots ++ more) cache archive := by
  refine { hrecorded with assembled := fun publication hmem => ?_ }
  obtain ⟨sources, source, hsnapshot, hrest⟩ := hrecorded.assembled publication hmem
  refine ⟨sources, source, ?_, hrest⟩
  exact (List.getElem?_append_left (List.getElem?_eq_some_iff.1 hsnapshot).1).trans hsnapshot

theorem publish {snapshot : Nat} {sources : Sources} {name source : String}
    (hrecorded : Recorded snapshots cache archive)
    (hsnapshot : snapshots[snapshot]? = some sources)
    (hsource : (name, source) ∈ componentsOf sources) (hbuilt : archive.built ≤ snapshot)
    (hlatest : ∀ publication ∈ archive.publications, publication.snapshot ≤ snapshot) :
    Recorded snapshots (cache.publish (cache.coreSource sources) name source)
      (archive.add
        (cache.publication snapshot (cache.coreSource sources) name source)) where
  numbered :=
    .cons (fun earlier hmem => Nat.lt_succ_of_le (hrecorded.number_le earlier hmem))
      hrecorded.numbered
  number_le := by
    intro publication hmem
    rcases List.mem_cons.1 hmem with rfl | hmem
    · exact Nat.le_refl _
    · exact Nat.le_succ_of_le (hrecorded.number_le publication hmem)
  dated := .cons hlatest hrecorded.dated
  built_le := by
    intro publication hmem
    rcases List.mem_cons.1 hmem with rfl | hmem
    · exact hbuilt
    · exact hrecorded.built_le publication hmem
  assembled := by
    intro publication hmem
    rcases List.mem_cons.1 hmem with rfl | hmem
    · exact ⟨sources, source, hsnapshot, hsource, rfl⟩
    · exact hrecorded.assembled publication hmem
  latest := by
    intro other
    simp only [CodeCache.publish, Table.get?_insert, Archive.add, List.find?_cons, publication,
      CodeBundle.assemble]
    by_cases hname : name = other
    · simp [hname]
    · simp only [hname, if_false, beq_eq_false_iff_ne.2 hname, hrecorded.latest other]

theorem publishAll {snapshot : Nat} {sources : Sources}
    {components : List (String × String)} (hrecorded : Recorded snapshots cache archive)
    (hsnapshot : snapshots[snapshot]? = some sources)
    (hcomponents : ∀ component ∈ components, component ∈ componentsOf sources)
    (hbuilt : archive.built ≤ snapshot)
    (hlatest : ∀ publication ∈ archive.publications, publication.snapshot ≤ snapshot) :
    Recorded snapshots (cache.publishAll (cache.coreSource sources) components)
      (cache.archiveAll archive snapshot (cache.coreSource sources) components) := by
  induction components generalizing cache archive with
  | nil => exact hrecorded
  | cons component rest ih =>
      have hfirst := hcomponents component List.mem_cons_self
      refine ih (hrecorded.publish hsnapshot hfirst hbuilt hlatest)
        (fun other hmem => hcomponents other (List.mem_cons_of_mem component hmem)) hbuilt ?_
      intro publication hmem
      rcases List.mem_cons.1 hmem with rfl | hmem
      · exact Nat.le_refl snapshot
      · exact hlatest publication hmem

/-- A new cache that was built from a snapshot is in line with its archive. -/
theorem buildAll {snapshot : Nat} {sources : Sources} (library : String)
    (hsnapshot : snapshots[snapshot]? = some sources) :
    Recorded snapshots ((CodeCache.empty library).buildAll sources).1
      (firstArchive library snapshot sources) :=
  (Recorded.empty library snapshot).publishAll hsnapshot (fun _ hmem => hmem)
    (Nat.le_refl snapshot) (by simp)

/-- The number of a snapshot in the archive is one of the snapshots. -/
theorem snapshot_lt {publication : Publication} (hrecorded : Recorded snapshots cache archive)
    (hmem : publication ∈ archive.publications) :
    publication.snapshot < snapshots.length := by
  obtain ⟨sources, source, hsnapshot, -⟩ := hrecorded.assembled publication hmem
  exact (List.getElem?_eq_some_iff.1 hsnapshot).1

/-- No component is called like the core library. -/
theorem component_ne {publication : Publication}
    (hrecorded : Recorded snapshots cache archive)
    (hmem : publication ∈ archive.publications) :
    publication.bundle.component ≠ CodeBundle.coreComponent := by
  obtain ⟨sources, source, -, hsource, -⟩ := hrecorded.assembled publication hmem
  simpa [componentsOf] using (List.mem_filter.1 hsource).2

/-- Generations and snapshots grow together. -/
theorem ordered (hrecorded : Recorded snapshots cache archive) :
    archive.publications.Pairwise fun later earlier =>
      earlier.bundle.generation < later.bundle.generation ∧ earlier.snapshot ≤ later.snapshot :=
  hrecorded.numbered.imp₂ (fun _ _ hnumber hdate => ⟨hnumber, hdate⟩) hrecorded.dated

theorem snapshot_le_of_generation_lt {publication other : Publication}
    (hrecorded : Recorded snapshots cache archive) (hmem : publication ∈ archive.publications)
    (hother : other ∈ archive.publications)
    (hlt : publication.bundle.generation < other.bundle.generation) :
    publication.snapshot ≤ other.snapshot := by
  have hall := List.Pairwise.forall_of_forall_of_flip
    (R := fun one two : Publication =>
      one.bundle.generation < two.bundle.generation → one.snapshot ≤ two.snapshot)
    (fun _ _ _ => Nat.le_refl _)
    (hrecorded.ordered.imp fun hlater hcontra => absurd hcontra (Nat.lt_asymm hlater.1))
    (hrecorded.ordered.imp fun hlater _ => hlater.2)
  exact hall hmem hother hlt

/-- What a cache shows of a component is the newest that was published of it. -/
theorem exists_newest {name : String} {bundle : CodeBundle}
    (hrecorded : Recorded snapshots cache archive)
    (hget : cache.bundles.get? name = some bundle) :
    bundle.component = name ∧ ∃ publication ∈ archive.publications,
      publication.bundle = bundle ∧ ∀ other ∈ archive.publications,
        other.bundle.component = name → other.bundle.generation ≤ bundle.generation ∧
          other.snapshot ≤ publication.snapshot := by
  rw [hrecorded.latest name] at hget
  obtain ⟨publication, hfind, rfl⟩ := Option.map_eq_some_iff.1 hget
  refine ⟨by simpa using List.find?_some hfind, publication, List.mem_of_find?_eq_some hfind, rfl,
    ?_⟩
  intro other hmem hname
  rcases eq_or_rel_of_find? hrecorded.ordered hfind hmem (by simpa using hname) with
    rfl | ⟨hnumber, hdate⟩
  · exact ⟨Nat.le_refl _, Nat.le_refl _⟩
  · exact ⟨Nat.le_of_lt hnumber, hdate⟩

theorem exists_publication {name : String} {bundle : CodeBundle}
    (hrecorded : Recorded snapshots cache archive)
    (hget : cache.bundles.get? name = some bundle) :
    ∃ publication ∈ archive.publications, publication.bundle = bundle ∧
      bundle.component = name := by
  obtain ⟨hname, publication, hmem, hbundle, -⟩ := hrecorded.exists_newest hget
  exact ⟨publication, hmem, hbundle, hname⟩

/-- Component and generation tell the source, and so does the generation alone. -/
theorem bundle_eq_of_generation {bundle other : CodeBundle}
    (hrecorded : Recorded snapshots cache archive) (hbundle : archive.Has bundle)
    (hother : archive.Has other) (hgeneration : bundle.generation = other.generation) :
    bundle = other := by
  obtain ⟨publication, hmem, rfl⟩ := hbundle
  obtain ⟨otherPublication, hotherMem, rfl⟩ := hother
  have hnodup : (archive.publications.map fun p => p.bundle.generation).Nodup := by
    refine List.pairwise_map.2 (hrecorded.numbered.imp ?_)
    intro later earlier hlt
    exact Nat.ne_of_gt hlt
  exact congrArg Publication.bundle
    (List.inj_on_of_nodup_map hnodup hmem hotherMem hgeneration)

/-- What a cache has of a covered component is not older than the covering snapshot. -/
theorem exists_bundle_of_covers {component : String} {snapshot : Nat}
    (hrecorded : Recorded snapshots cache archive)
    (hcovers : archive.Covers component snapshot) :
    ∃ publication ∈ archive.publications,
      cache.bundles.get? component = some publication.bundle ∧
      snapshot ≤ publication.snapshot := by
  obtain ⟨covering, hmem, hcomponent, hle⟩ := hcovers
  have hsome : (cache.bundles.get? component).isSome := by
    rw [hrecorded.latest component, Option.isSome_map, List.find?_isSome]
    exact ⟨covering, hmem, by simpa using hcomponent⟩
  obtain ⟨bundle, hget⟩ := Option.isSome_iff_exists.1 hsome
  obtain ⟨-, publication, hpublication, rfl, hnewest⟩ := hrecorded.exists_newest hget
  exact ⟨publication, hpublication, hget,
    Nat.le_trans hle (hnewest covering hmem hcomponent).2⟩

end Recorded

/-- What has to be published when a component changes: for the core library all that
the cache has and the registry still provides. -/
def due (cache : CodeCache) (sources : Sources) (name : String) :
    Except RenderError (List (String × String)) :=
  if name = CodeBundle.coreComponent then .ok (cache.cachedSources sources)
  else match sources.get? name with
    | some source => .ok [(name, source)]
    | none => .error (.componentNotFound name)

theorem invalidate_eq_publishAll (cache : CodeCache) (sources : Sources) (name : String) :
    cache.invalidate sources name =
      (cache.due sources name).map (cache.publishAll (cache.coreSource sources)) := by
  simp only [invalidate, due]
  split
  · rfl
  · cases sources.get? name <;> rfl

theorem mem_componentsOf {sources : Sources} {name source : String}
    (hname : name ≠ CodeBundle.coreComponent) (hget : sources.get? name = some source) :
    (name, source) ∈ componentsOf sources := by
  rw [componentsOf, List.mem_filter]
  exact ⟨Table.mem_of_get? hget, by simpa using hname⟩

theorem mem_componentsOf_of_due {snapshots : List Sources} {cache : CodeCache}
    {archive : Archive} {sources : Sources} {name : String} {due : List (String × String)}
    (hrecorded : Recorded snapshots cache archive)
    (hdue : cache.due sources name = .ok due) :
    ∀ component ∈ due, component ∈ componentsOf sources := by
  intro component hmem
  simp only [CodeCache.due] at hdue
  split at hdue
  · obtain rfl := Except.ok.inj hdue
    obtain ⟨key, hkey, hmap⟩ := List.mem_filterMap.1 hmem
    obtain ⟨source, hsource, rfl⟩ := Option.map_eq_some_iff.1 hmap
    refine mem_componentsOf ?_ hsource
    have hcached := (Table.contains_iff_mem_keys cache.bundles key).2 hkey
    obtain ⟨bundle, hbundle⟩ := Option.isSome_iff_exists.1 hcached
    obtain ⟨publication, hpublication, rfl, rfl⟩ := hrecorded.exists_publication hbundle
    exact hrecorded.component_ne hpublication
  · next hname =>
      cases hsource : sources.get? name with
      | none =>
          rw [hsource] at hdue
          contradiction
      | some source =>
          rw [hsource] at hdue
          obtain rfl := Except.ok.inj hdue
          obtain rfl := List.mem_singleton.1 hmem
          exact mem_componentsOf hname hsource

end CodeCache

end ServerRender
