import Mathlib.Logic.Relation
import ServerRender.Proofs.CodeCache.Archive
import ServerRender.Proofs.Places

/-!
# Writers of a cache

Any number of threads rebuild a cache, the whole of it or one component, while the
registry may change between any two of their steps and others read the cache at any time.
A writer waits for the lock, reads the registry, works out what is due and publishes one
bundle after the other.  To publish it takes a number first, and only then puts the
bundle in its place.  The holder of the lock is the only one who can change anything, so
an invariant is kept as soon as each step of the holder keeps it; and since the registry
is read under the lock, numbers come in the order of the snapshots.
-/

namespace ServerRender

namespace CodeCache

def takeNumber (cache : CodeCache) : CodeCache :=
  { cache with generation := cache.generation + 1 }

def place (cache : CodeCache) (name : String) (bundle : CodeBundle) : CodeCache :=
  { cache with bundles := cache.bundles.insert name bundle }

theorem publish_eq_place (cache : CodeCache) (core name source : String) :
    cache.publish core name source =
      cache.takeNumber.place name
        (.assemble name core source cache.takeNumber.generation) := rfl

theorem get_eq_ok_iff {cache : CodeCache} {name : String} {bundle : CodeBundle} :
    cache.get name = .ok bundle ↔ cache.bundles.get? name = some bundle := by
  simp only [get]
  split <;> simp_all

end CodeCache

namespace Workshop

inductive Order where
  | everything
  /-- One component, or all that is cached if it is the core library. -/
  | component (name : String)

inductive Stage where
  | waiting
  /-- Has the lock; about to read the registry. -/
  | locked
  /-- Has read the registry; about to work out what is due. -/
  | planning (snapshot : Nat)
  /-- About to number the next bundle, or to give the lock back. -/
  | writing (snapshot : Nat) (core : String) (due : List (String × String))
  /-- About to put the numbered bundle in its place. -/
  | placing (snapshot : Nat) (core name source : String) (number : Nat)
    (due : List (String × String))
  | done (snapshot : Nat)
  | failed (error : RenderError)

structure Writer where
  order : Order
  stage : Stage

def Order.due (cache : CodeCache) (sources : Sources) :
    Order → Except RenderError (List (String × String))
  | everything => .ok (CodeCache.componentsOf sources)
  | component name => cache.due sources name

def Stage.hasLock : Stage → Bool
  | waiting => false
  | done _ => false
  | failed _ => false
  | _ => true

end Workshop

/-- A cache with all who write to it, and the registry that they read. -/
structure Workshop where
  cache : CodeCache
  sources : Sources
  /-- All snapshots of the registry that were taken. -/
  snapshots : List Sources
  /-- All that was published. -/
  archive : Archive
  writers : List Workshop.Writer

namespace Workshop

def start (library : String) (sources : Sources) : Workshop :=
  ⟨.empty library, sources, [], ⟨0, []⟩, []⟩

def IsFree (workshop : Workshop) : Prop :=
  ∀ writer ∈ workshop.writers, writer.stage.hasLock = false

/-- What may happen next.  A registry has one source for each name, and the components
that are due come in any order. -/
inductive Turn (workshop : Workshop) : Workshop → Prop
  | edit (sources : Sources) (hkeys : sources.keys.Nodup) :
      Turn workshop { workshop with sources }
  | call (order : Order) :
      Turn workshop { workshop with writers := workshop.writers ++ [⟨order, .waiting⟩] }
  | lock (index : Nat) {order : Order}
      (hwriter : workshop.writers[index]? = some ⟨order, .waiting⟩)
      (hfree : workshop.IsFree) :
      Turn workshop { workshop with writers := workshop.writers.set index ⟨order, .locked⟩ }
  | read (index : Nat) {order : Order}
      (hwriter : workshop.writers[index]? = some ⟨order, .locked⟩) :
      Turn workshop
        { workshop with
          snapshots := workshop.snapshots ++ [workshop.sources]
          writers := workshop.writers.set index
            ⟨order, .planning workshop.snapshots.length⟩ }
  | plan (index : Nat) {snapshot : Nat} {order : Order} {sources : Sources}
      {all due : List (String × String)}
      (hwriter : workshop.writers[index]? = some ⟨order, .planning snapshot⟩)
      (hsnapshot : workshop.snapshots[snapshot]? = some sources)
      (hdue : order.due workshop.cache sources = .ok all) (hperm : due.Perm all) :
      Turn workshop
        { workshop with
          writers := workshop.writers.set index
            ⟨order, .writing snapshot (workshop.cache.coreSource sources) due⟩ }
  /-- The registry does not have the component. -/
  | fail (index : Nat) {snapshot : Nat} {order : Order} {sources : Sources} {error : RenderError}
      (hwriter : workshop.writers[index]? = some ⟨order, .planning snapshot⟩)
      (hsnapshot : workshop.snapshots[snapshot]? = some sources)
      (hdue : order.due workshop.cache sources = .error error) :
      Turn workshop
        { workshop with writers := workshop.writers.set index ⟨order, .failed error⟩ }
  | number (index : Nat) {snapshot : Nat} {order : Order} {core name source : String}
      {due : List (String × String)}
      (hwriter : workshop.writers[index]? =
        some ⟨order, .writing snapshot core ((name, source) :: due)⟩) :
      Turn workshop
        { workshop with
          cache := workshop.cache.takeNumber
          writers := workshop.writers.set index
            ⟨order, .placing snapshot core name source workshop.cache.takeNumber.generation
              due⟩ }
  | place (index : Nat) {snapshot number : Nat} {order : Order} {core name source : String}
      {due : List (String × String)}
      (hwriter : workshop.writers[index]? =
        some ⟨order, .placing snapshot core name source number due⟩) :
      Turn workshop
        { workshop with
          cache := workshop.cache.place name (.assemble name core source number)
          archive := workshop.archive.add ⟨.assemble name core source number, snapshot⟩
          writers := workshop.writers.set index ⟨order, .writing snapshot core due⟩ }
  | unlock (index : Nat) {snapshot : Nat} {order : Order} {core : String}
      (hwriter : workshop.writers[index]? = some ⟨order, .writing snapshot core []⟩) :
      Turn workshop
        { workshop with writers := workshop.writers.set index ⟨order, .done snapshot⟩ }

def Reaches : Workshop → Workshop → Prop :=
  Relation.ReflTransGen Turn

/-- The workshops that a new cache can come to, whoever writes to it and whatever becomes
of the registry. -/
def Reachable (library : String) (workshop : Workshop) : Prop :=
  ∃ sources, sources.keys.Nodup ∧ Reaches (start library sources) workshop

variable {workshop next later : Workshop} {library : String}

theorem Reachable.trans (hreach : Reachable library workshop) (hlater : Reaches workshop later) :
    Reachable library later := by
  obtain ⟨sources, hkeys, hstart⟩ := hreach
  exact ⟨sources, hkeys, hstart.trans hlater⟩

/-- A writer that publishes all that is due and gives the lock back. -/
theorem reaches_publishAll {index snapshot : Nat} {order : Order} {core : String}
    {due : List (String × String)}
    (hwriter : workshop.writers[index]? = some ⟨order, .writing snapshot core due⟩) :
    Reaches workshop
      { workshop with
        cache := workshop.cache.publishAll core due
        archive := workshop.cache.archiveAll workshop.archive snapshot core due
        writers := workshop.writers.set index ⟨order, .done snapshot⟩ } := by
  induction due generalizing workshop with
  | nil => exact .single (.unlock index hwriter)
  | cons component rest ih =>
      obtain ⟨name, source⟩ := component
      have hindex := (List.getElem?_eq_some_iff.1 hwriter).1
      have hnumber : Turn workshop _ := .number index hwriter
      have hplace : Turn
          { workshop with
            cache := workshop.cache.takeNumber
            writers := workshop.writers.set index
              ⟨order, .placing snapshot core name source
                workshop.cache.takeNumber.generation rest⟩ } _ :=
        .place index (List.getElem?_set_self hindex)
      simp only [List.set_set, ← CodeCache.publish_eq_place] at hplace
      have hrest : Reaches
          { workshop with
            cache := workshop.cache.publish core name source
            archive := workshop.archive.add
              (workshop.cache.publication snapshot core name source)
            writers := workshop.writers.set index ⟨order, .writing snapshot core rest⟩ } _ :=
        ih (List.getElem?_set_self hindex)
      simp only [List.set_set] at hrest
      exact .head hnumber (.head hplace hrest)

/-- A writer that nobody disturbs, while nobody else has the lock. -/
theorem reaches_order (order : Order) {due : List (String × String)}
    (hfree : workshop.IsFree) (hdue : order.due workshop.cache workshop.sources = .ok due) :
    ∃ later, Reaches workshop later ∧ later.cache =
      workshop.cache.publishAll (workshop.cache.coreSource workshop.sources) due := by
  have hcall : Turn workshop _ := .call order
  have hstillFree : IsFree
      { workshop with writers := workshop.writers ++ [⟨order, .waiting⟩] } := by
    intro writer hmem
    rcases List.mem_append.1 hmem with hold | hnew
    · exact hfree writer hold
    · rw [List.mem_singleton.1 hnew]
      rfl
  have hlock : Turn { workshop with writers := workshop.writers ++ [⟨order, .waiting⟩] } _ :=
    .lock _ List.getElem?_concat_length hstillFree
  simp only [List.set_append_right, Nat.le_refl, Nat.sub_self, List.set_cons_zero] at hlock
  have hread : Turn { workshop with writers := workshop.writers ++ [⟨order, .locked⟩] } _ :=
    .read _ List.getElem?_concat_length
  simp only [List.set_append_right, Nat.le_refl, Nat.sub_self, List.set_cons_zero] at hread
  have hplan : Turn
      { workshop with
        snapshots := workshop.snapshots ++ [workshop.sources]
        writers := workshop.writers ++ [⟨order, .planning workshop.snapshots.length⟩] } _ :=
    .plan _ List.getElem?_concat_length List.getElem?_concat_length hdue (.refl due)
  simp only [List.set_append_right, Nat.le_refl, Nat.sub_self, List.set_cons_zero] at hplan
  exact ⟨_, .head hcall (.head hlock (.head hread (.head hplan
    (reaches_publishAll List.getElem?_concat_length)))), rfl⟩

/-- What a cache does in one go to rebuild all is one way for its writers to go on. -/
theorem reaches_buildAll (hfree : workshop.IsFree) :
    ∃ later, Reaches workshop later ∧
      later.cache = (workshop.cache.buildAll workshop.sources).1 :=
  reaches_order .everything hfree rfl

/-- And so is what it does to rebuild a component. -/
theorem reaches_invalidate {name : String} {cache : CodeCache} (hfree : workshop.IsFree)
    (hinvalidate : workshop.cache.invalidate workshop.sources name = .ok cache) :
    ∃ later, Reaches workshop later ∧ later.cache = cache := by
  rw [CodeCache.invalidate_eq_publishAll] at hinvalidate
  cases hdue : workshop.cache.due workshop.sources name with
  | error error =>
      rw [hdue] at hinvalidate
      contradiction
  | ok due =>
      rw [hdue] at hinvalidate
      obtain rfl := Except.ok.inj hinvalidate
      exact reaches_order (.component name) hfree hdue

/-! ## The invariant -/

/-- The cache as if a number that was taken had not been. -/
def settled (workshop : Workshop) : CodeCache :=
  { workshop.cache with generation := workshop.archive.publications.length }

/-- The snapshot was taken, and nothing that was published is from a later one. -/
structure Latest (snapshots : List Sources) (archive : Archive) (snapshot : Nat) : Prop where
  taken : snapshot < snapshots.length
  le : ∀ publication ∈ archive.publications, publication.snapshot ≤ snapshot

/-- What is due is all from one snapshot, and no later one was published from. -/
structure Planned (cache : CodeCache) (snapshots : List Sources) (archive : Archive)
    (snapshot : Nat) (core : String) (due : List (String × String)) : Prop where
  latest : Latest snapshots archive snapshot
  read : ∃ sources, snapshots[snapshot]? = some sources ∧ core = cache.coreSource sources ∧
    ∀ component ∈ due, component ∈ CodeCache.componentsOf sources

/-- What the holder of the lock relies on.  The others rely on nothing. -/
def Stage.Lawful (cache : CodeCache) (snapshots : List Sources) (archive : Archive) :
    Stage → Prop
  | locked => cache.generation = archive.publications.length
  | planning snapshot =>
    cache.generation = archive.publications.length ∧ Latest snapshots archive snapshot
  | writing snapshot core due =>
    cache.generation = archive.publications.length ∧
      Planned cache snapshots archive snapshot core due
  | placing snapshot core name source number due =>
    number = archive.publications.length + 1 ∧ cache.generation = number ∧
      Planned cache snapshots archive snapshot core ((name, source) :: due)
  | _ => True

theorem Stage.lawful_of_not_hasLock (cache : CodeCache) (snapshots : List Sources)
    (archive : Archive) {stage : Stage} (hstage : stage.hasLock = false) :
    stage.Lawful cache snapshots archive := by
  cases stage <;> trivial

/-- The cache is in line with all that was published, and the holder of the lock is alone
and can rely on what it has read. -/
structure Kept (library : String) (workshop : Workshop) : Prop where
  library_eq : workshop.cache.coreLibrary = library
  built_eq : workshop.archive.built = 0
  recorded : workshop.settled.Recorded workshop.snapshots workshop.archive
  keys_nodup : ∀ sources ∈ workshop.sources :: workshop.snapshots, sources.keys.Nodup
  alone : ∀ {index other : Nat} {writer otherWriter : Writer},
    workshop.writers[index]? = some writer → workshop.writers[other]? = some otherWriter →
    writer.stage.hasLock = true → otherWriter.stage.hasLock = true → index = other
  lawful : ∀ {index : Nat} {writer : Writer}, workshop.writers[index]? = some writer →
    writer.stage.Lawful workshop.cache workshop.snapshots workshop.archive
  free : workshop.IsFree → workshop.cache.generation = workshop.archive.publications.length

theorem kept_start {sources : Sources} (hkeys : sources.keys.Nodup) :
    Kept library (start library sources) where
  library_eq := rfl
  built_eq := rfl
  recorded := .empty library 0
  keys_nodup := by simpa [start] using hkeys
  alone := by simp [start]
  lawful := by simp [start]
  free _ := rfl

namespace Kept

theorem edit (hkept : workshop.Kept library) {sources : Sources} (hkeys : sources.keys.Nodup) :
    Kept library { workshop with sources } :=
  { hkept with
    keys_nodup := by
      rintro other (_ | ⟨_, hmem⟩)
      · exact hkeys
      · exact hkept.keys_nodup other (List.mem_cons_of_mem _ hmem)
    lawful := fun hwriter => hkept.lawful hwriter }

/-- A writer that has just come waits. -/
theorem call (hkept : workshop.Kept library) (order : Order) :
    Kept library { workshop with writers := workshop.writers ++ [⟨order, .waiting⟩] } := by
  have hcases : ∀ {index : Nat} {writer : Writer},
      (workshop.writers ++ [⟨order, .waiting⟩])[index]? = some writer →
      workshop.writers[index]? = some writer ∨ writer = ⟨order, .waiting⟩ := by
    intro index writer hwriter
    exact (getElem?_append_cases hwriter).imp_right fun hnew => hnew.2.symm
  refine { hkept with alone := ?_, lawful := ?_, free := ?_ }
  · intro index other writer otherWriter hwriter hother hlock hotherLock
    rcases hcases hwriter with hold | rfl
    · rcases hcases hother with hotherOld | rfl
      · exact hkept.alone hold hotherOld hlock hotherLock
      · contradiction
    · contradiction
  · intro index writer hwriter
    rcases hcases hwriter with hold | rfl
    · exact hkept.lawful hold
    · trivial
  · intro hfree
    exact hkept.free fun writer hmem => hfree writer (List.mem_append_left _ hmem)

/-- Whoever has the lock, or gets it while it is free, may change the workshop as long as
the new stage is lawful. -/
theorem turn (hkept : workshop.Kept library) {index : Nat} {order : Order} {before after : Stage}
    (hwriter : workshop.writers[index]? = some ⟨order, before⟩)
    (hholder : before.hasLock = true ∨ workshop.IsFree)
    (hlibrary : next.cache.coreLibrary = workshop.cache.coreLibrary)
    (hbuilt : next.archive.built = workshop.archive.built)
    (hrecorded : next.settled.Recorded next.snapshots next.archive)
    (hkeys : ∀ sources ∈ next.sources :: next.snapshots, sources.keys.Nodup)
    (hwriters : next.writers = workshop.writers.set index ⟨order, after⟩)
    (hlawful : after.Lawful next.cache next.snapshots next.archive)
    (hfree : after.hasLock = false →
      next.cache.generation = next.archive.publications.length) : next.Kept library := by
  -- Nobody but this writer has the lock afterwards.
  have hothers : ∀ {other : Nat} {writer : Writer}, index ≠ other →
      workshop.writers[other]? = some writer → writer.stage.hasLock = false := by
    intro other writer hne hother
    rcases hholder with hlock | hfree
    · by_contra hotherLock
      exact hne (hkept.alone hwriter hother hlock (by simpa using hotherLock))
    · exact hfree writer (List.mem_of_getElem? hother)
  have hcases : ∀ {other : Nat} {writer : Writer}, next.writers[other]? = some writer →
      (index = other ∧ writer = ⟨order, after⟩) ∨ writer.stage.hasLock = false := by
    intro other writer hother
    rw [hwriters] at hother
    rcases getElem?_set_cases hother with ⟨hsame, hnew⟩ | ⟨hne, hold⟩
    · exact .inl ⟨hsame, hnew.symm⟩
    · exact .inr (hothers hne hold)
  have hindex := (List.getElem?_eq_some_iff.1 hwriter).1
  refine ⟨hlibrary.trans hkept.library_eq, hbuilt.trans hkept.built_eq, hrecorded, hkeys, ?_, ?_,
    ?_⟩
  · intro one other writer otherWriter hone hother hlock hotherLock
    rcases hcases hone with ⟨rfl, -⟩ | hnone
    · rcases hcases hother with ⟨rfl, -⟩ | hnone
      · rfl
      · rw [hnone] at hotherLock
        contradiction
    · rw [hnone] at hlock
      contradiction
  · intro other writer hother
    rcases hcases hother with ⟨-, rfl⟩ | hnone
    · exact hlawful
    · exact Stage.lawful_of_not_hasLock _ _ _ hnone
  · intro hnextFree
    refine hfree (hnextFree ⟨order, after⟩ ?_)
    rw [hwriters]
    exact List.mem_of_getElem? (List.getElem?_set_self hindex)

theorem lock (hkept : workshop.Kept library) {index : Nat} {order : Order}
    (hwriter : workshop.writers[index]? = some ⟨order, .waiting⟩) (hfree : workshop.IsFree) :
    Kept library { workshop with writers := workshop.writers.set index ⟨order, .locked⟩ } :=
  hkept.turn hwriter (.inr hfree) rfl rfl hkept.recorded hkept.keys_nodup rfl
    (hkept.free hfree) (by simp [Stage.hasLock])

/-- The registry is read after all that was published by then. -/
theorem read (hkept : workshop.Kept library) {index : Nat} {order : Order}
    (hwriter : workshop.writers[index]? = some ⟨order, .locked⟩) :
    Kept library
      { workshop with
        snapshots := workshop.snapshots ++ [workshop.sources]
        writers := workshop.writers.set index ⟨order, .planning workshop.snapshots.length⟩ } := by
  have hgeneration : workshop.cache.generation = workshop.archive.publications.length :=
    hkept.lawful hwriter
  refine hkept.turn hwriter (.inl rfl) rfl rfl hkept.recorded.mono ?_ rfl
    ⟨hgeneration, ?_, ?_⟩ (by simp [Stage.hasLock])
  · intro sources hmem
    refine hkept.keys_nodup sources ?_
    simpa [or_assoc, or_comm, or_left_comm] using hmem
  · simp
  · intro publication hmem
    exact Nat.le_of_lt (hkept.recorded.snapshot_lt hmem)

theorem plan (hkept : workshop.Kept library) {index snapshot : Nat} {order : Order}
    {sources : Sources} {all due : List (String × String)}
    (hwriter : workshop.writers[index]? = some ⟨order, .planning snapshot⟩)
    (hsnapshot : workshop.snapshots[snapshot]? = some sources)
    (hdue : order.due workshop.cache sources = .ok all) (hperm : due.Perm all) :
    Kept library
      { workshop with
        writers := workshop.writers.set index
          ⟨order, .writing snapshot (workshop.cache.coreSource sources) due⟩ } := by
  obtain ⟨hgeneration, hlatest⟩ := hkept.lawful hwriter
  have hall : ∀ component ∈ all, component ∈ CodeCache.componentsOf sources := by
    cases order with
    | everything =>
        obtain rfl := Except.ok.inj hdue
        exact fun component hmem => hmem
    | component name => exact CodeCache.mem_componentsOf_of_due hkept.recorded hdue
  refine hkept.turn hwriter (.inl rfl) rfl rfl hkept.recorded hkept.keys_nodup rfl
    ⟨hgeneration, hlatest, sources, hsnapshot, rfl, ?_⟩ (by simp [Stage.hasLock])
  intro component hmem
  exact hall component (hperm.mem_iff.1 hmem)

theorem number (hkept : workshop.Kept library) {index snapshot : Nat} {order : Order}
    {core name source : String} {due : List (String × String)}
    (hwriter : workshop.writers[index]? =
      some ⟨order, .writing snapshot core ((name, source) :: due)⟩) :
    Kept library
      { workshop with
        cache := workshop.cache.takeNumber
        writers := workshop.writers.set index
          ⟨order, .placing snapshot core name source workshop.cache.takeNumber.generation
            due⟩ } := by
  obtain ⟨hgeneration, hlatest, hread⟩ := hkept.lawful hwriter
  exact hkept.turn hwriter (.inl rfl) rfl rfl hkept.recorded hkept.keys_nodup rfl
    ⟨congrArg (· + 1) hgeneration, rfl, ⟨hlatest.taken, hlatest.le⟩, hread⟩
    (by simp [Stage.hasLock])

/-- Nothing was published since the number was taken. -/
theorem place (hkept : workshop.Kept library) {index snapshot number : Nat} {order : Order}
    {core name source : String} {due : List (String × String)}
    (hwriter : workshop.writers[index]? =
      some ⟨order, .placing snapshot core name source number due⟩) :
    Kept library
      { workshop with
        cache := workshop.cache.place name (.assemble name core source number)
        archive := workshop.archive.add ⟨.assemble name core source number, snapshot⟩
        writers := workshop.writers.set index ⟨order, .writing snapshot core due⟩ } := by
  obtain ⟨rfl, hgeneration, hlatest, sources, hsnapshot, rfl, hdue⟩ := hkept.lawful hwriter
  have hbuilt : workshop.archive.built ≤ snapshot := by
    rw [hkept.built_eq]
    exact Nat.zero_le snapshot
  have hpublished := hkept.recorded.publish hsnapshot (hdue (name, source) List.mem_cons_self)
    hbuilt hlatest.le
  refine hkept.turn hwriter (.inl rfl) rfl rfl hpublished hkept.keys_nodup rfl
    ⟨hgeneration, ⟨hlatest.taken, ?_⟩, sources, hsnapshot, rfl, ?_⟩ (by simp [Stage.hasLock])
  · intro publication hmem
    rcases List.mem_cons.1 hmem with rfl | hmem
    · exact Nat.le_refl snapshot
    · exact hlatest.le publication hmem
  · exact fun component hmem => hdue component (List.mem_cons_of_mem _ hmem)

/-- A writer gives the lock back, with all published that it has numbered. -/
theorem leave (hkept : workshop.Kept library) {index : Nat} {order : Order}
    {before after : Stage} (hwriter : workshop.writers[index]? = some ⟨order, before⟩)
    (hlock : before.hasLock = true)
    (hgeneration : workshop.cache.generation = workshop.archive.publications.length)
    (hafter : after.hasLock = false) :
    Kept library { workshop with writers := workshop.writers.set index ⟨order, after⟩ } :=
  hkept.turn hwriter (.inl hlock) rfl rfl hkept.recorded hkept.keys_nodup rfl
    (Stage.lawful_of_not_hasLock _ _ _ hafter) (fun _ => hgeneration)

end Kept

theorem kept_of_turn (hkept : workshop.Kept library) (hturn : Turn workshop next) :
    next.Kept library := by
  cases hturn with
  | edit sources hkeys => exact hkept.edit hkeys
  | call order => exact hkept.call order
  | lock index hwriter hfree => exact hkept.lock hwriter hfree
  | read index hwriter => exact hkept.read hwriter
  | plan index hwriter hsnapshot hdue hperm => exact hkept.plan hwriter hsnapshot hdue hperm
  | fail index hwriter hsnapshot hdue => exact hkept.leave hwriter rfl (hkept.lawful hwriter).1 rfl
  | number index hwriter => exact hkept.number hwriter
  | place index hwriter => exact hkept.place hwriter
  | unlock index hwriter => exact hkept.leave hwriter rfl (hkept.lawful hwriter).1 rfl

theorem kept_of_reachable (hreach : Reachable library workshop) : workshop.Kept library := by
  obtain ⟨sources, hkeys, hreach⟩ := hreach
  induction hreach with
  | refl => exact kept_start hkeys
  | tail _ hturn ih => exact kept_of_turn ih hturn

/-! ## What readers can rely on -/

def Published (workshop : Workshop) (bundle : CodeBundle) (snapshot : Nat) : Prop :=
  ⟨bundle, snapshot⟩ ∈ workshop.archive.publications

structure Consistent (library : String) (workshop : Workshop) : Prop where
  core_not_mem : CodeBundle.coreComponent ∉ workshop.cache.bundles.keys
  /-- A reader gets the newest bundle of the component that it asks for. -/
  shown : ∀ {name : String} {bundle : CodeBundle}, workshop.cache.get name = .ok bundle →
    bundle.component = name ∧ ∃ snapshot, workshop.Published bundle snapshot ∧
      ∀ other otherSnapshot, workshop.Published other otherSnapshot →
        other.component = name →
        other.generation ≤ bundle.generation ∧ otherSnapshot ≤ snapshot
  /-- Core library and source of a bundle are from one snapshot. -/
  assembled : ∀ {bundle : CodeBundle} {snapshot : Nat}, workshop.Published bundle snapshot →
    ∃ sources source, workshop.snapshots[snapshot]? = some sources ∧
      sources.get? bundle.component = some source ∧
      bundle.source = CodeBundle.browserPrelude ++ "\n" ++
        (sources.get? CodeBundle.coreComponent).getD library ++ ";\n" ++ source ++ ";\n"
  /-- The counter has counted what was published, and perhaps one bundle that is still to
  be put in its place. -/
  counted : workshop.archive.publications.length ≤ workshop.cache.generation ∧
    workshop.cache.generation ≤ workshop.archive.publications.length + 1
  generation_le : ∀ {bundle : CodeBundle} {snapshot : Nat},
    workshop.Published bundle snapshot → bundle.generation ≤ workshop.cache.generation
  determined : ∀ {bundle other : CodeBundle} {snapshot otherSnapshot : Nat},
    workshop.Published bundle snapshot → workshop.Published other otherSnapshot →
    bundle.generation = other.generation → bundle = other
  /-- Generations grow with time, for all components together. -/
  increasing : (workshop.archive.publications.map fun p => p.bundle.generation).Pairwise (· > ·)
  /-- A bundle with a greater generation is not from an earlier snapshot. -/
  ordered : ∀ {bundle other : CodeBundle} {snapshot otherSnapshot : Nat},
    workshop.Published bundle snapshot → workshop.Published other otherSnapshot →
    bundle.generation < other.generation → snapshot ≤ otherSnapshot

theorem component_ne_of_published (hkept : workshop.Kept library) {bundle : CodeBundle}
    {snapshot : Nat} (hpublished : workshop.Published bundle snapshot) :
    bundle.component ≠ CodeBundle.coreComponent :=
  hkept.recorded.component_ne hpublished

theorem exists_source_of_published (hkept : workshop.Kept library) {bundle : CodeBundle}
    {snapshot : Nat} (hpublished : workshop.Published bundle snapshot) :
    ∃ sources source, workshop.snapshots[snapshot]? = some sources ∧
      sources.get? bundle.component = some source ∧
      bundle.source = CodeBundle.browserPrelude ++ "\n" ++
        (sources.get? CodeBundle.coreComponent).getD library ++ ";\n" ++ source ++ ";\n" := by
  obtain ⟨sources, source, hsnapshot, hcomponent, hbundle⟩ :=
    hkept.recorded.assembled _ hpublished
  have hkeys := hkept.keys_nodup sources
    (List.mem_cons_of_mem _ (List.mem_of_getElem? hsnapshot))
  refine ⟨sources, source, hsnapshot,
    Table.get?_of_mem hkeys (List.mem_of_mem_filter hcomponent), ?_⟩
  have hsource := congrArg CodeBundle.source hbundle
  rw [← hkept.library_eq]
  exact hsource

/-- The counter is ahead of the archive while a numbered bundle is not in its place. -/
theorem generation_of_kept (hkept : workshop.Kept library) :
    workshop.archive.publications.length ≤ workshop.cache.generation ∧
      workshop.cache.generation ≤ workshop.archive.publications.length + 1 := by
  by_cases hfree : workshop.IsFree
  · have hgeneration := hkept.free hfree
    omega
  · obtain ⟨⟨order, stage⟩, hmem, hlock⟩ : ∃ writer ∈ workshop.writers,
        writer.stage.hasLock = true := by
      simpa [IsFree] using hfree
    obtain ⟨index, hindex⟩ := List.mem_iff_getElem?.1 hmem
    have hlawful := hkept.lawful hindex
    cases stage with
    | locked =>
        have hgeneration : workshop.cache.generation = _ := hlawful
        omega
    | planning snapshot =>
        have hgeneration := hlawful.1
        omega
    | writing snapshot core due =>
        have hgeneration := hlawful.1
        omega
    | placing snapshot core name source number due =>
        obtain ⟨hnumber, hgeneration, -⟩ := hlawful
        omega
    | _ => contradiction

theorem consistent_of_kept (hkept : workshop.Kept library) : workshop.Consistent library where
  core_not_mem := by
    intro hcore
    have hcached := (Table.contains_iff_mem_keys _ _).2 hcore
    obtain ⟨bundle, hbundle⟩ := Option.isSome_iff_exists.1 hcached
    obtain ⟨publication, hmem, rfl, hname⟩ := hkept.recorded.exists_publication hbundle
    exact component_ne_of_published hkept hmem hname
  shown := by
    intro name bundle hget
    obtain ⟨hname, publication, hmem, rfl, hnewest⟩ :=
      hkept.recorded.exists_newest (CodeCache.get_eq_ok_iff.1 hget)
    exact ⟨hname, publication.snapshot, hmem,
      fun other otherSnapshot hother => hnewest ⟨other, otherSnapshot⟩ hother⟩
  assembled := exists_source_of_published hkept
  counted := generation_of_kept hkept
  generation_le hpublished :=
    Nat.le_trans (hkept.recorded.number_le _ hpublished) (generation_of_kept hkept).1
  determined hpublished hother :=
    hkept.recorded.bundle_eq_of_generation ⟨_, hpublished, rfl⟩ ⟨_, hother, rfl⟩
  increasing := List.pairwise_map.2 hkept.recorded.numbered
  ordered hpublished hother := hkept.recorded.snapshot_le_of_generation_lt hpublished hother

/-- Nothing that was published is forgotten. -/
theorem extends_of_reaches (hreach : Reaches workshop later) :
    later.archive.Extends workshop.archive := by
  induction hreach with
  | refl => exact .refl _
  | tail _ hturn ih =>
      refine Archive.Extends.trans ?_ ih
      cases hturn with
      | place index hwriter => exact Archive.extends_add _ _
      | _ => exact .refl _

/-- Whatever the writers of a cache do, and whatever becomes of the registry meanwhile, the
cache is consistent.  And a bundle that a reader could get is never replaced by an older
one, or by one from an earlier snapshot, however slow its writer is. -/
theorem consistent_of_reachable (hreach : Reachable library workshop) :
    workshop.Consistent library ∧
      ∀ {later : Workshop}, Reaches workshop later →
        ∀ {name : String} {bundle : CodeBundle}, workshop.cache.get name = .ok bundle →
          ∃ newer snapshot newerSnapshot, later.cache.get name = .ok newer ∧
            later.Published bundle snapshot ∧ later.Published newer newerSnapshot ∧
            bundle.generation ≤ newer.generation ∧ snapshot ≤ newerSnapshot := by
  have hconsistent := consistent_of_kept (kept_of_reachable hreach)
  refine ⟨hconsistent, ?_⟩
  intro later hlater name bundle hget
  obtain ⟨sources, hkeys, hreach⟩ := hreach
  have hkept : later.Kept library := kept_of_reachable ⟨sources, hkeys, hreach.trans hlater⟩
  obtain ⟨hname, snapshot, hpublished, -⟩ := hconsistent.shown hget
  have hstill : later.Published bundle snapshot := (extends_of_reaches hlater).mem _ hpublished
  obtain ⟨newest, hmem, hshown, -⟩ := hkept.recorded.exists_bundle_of_covers
    ⟨⟨bundle, snapshot⟩, hstill, hname, Nat.le_refl snapshot⟩
  have hlaterGet : later.cache.get name = .ok newest.bundle :=
    CodeCache.get_eq_ok_iff.2 hshown
  obtain ⟨-, newerSnapshot, hnewer, hnewest⟩ := (consistent_of_kept hkept).shown hlaterGet
  obtain ⟨hgeneration, hsnapshot⟩ := hnewest bundle snapshot hstill hname
  exact ⟨newest.bundle, snapshot, newerSnapshot, hlaterGet, hstill, hnewer, hgeneration,
    hsnapshot⟩

/-- A cache was built from two sources, one of them the core library.  While it was built
the other one was edited, and a second writer has come who waits for the lock. -/
def justBuilt : Workshop where
  cache := ((CodeCache.empty "").buildAll ⟨[("A", "old"), ("Core", "library")]⟩).1
  sources := ⟨[("A", "new"), ("Core", "library")]⟩
  snapshots := [⟨[("A", "old"), ("Core", "library")]⟩]
  archive := CodeCache.firstArchive "" 0 ⟨[("A", "old"), ("Core", "library")]⟩
  writers := [⟨.everything, .done 0⟩, ⟨.component "A", .waiting⟩]

/-- The second writer replaces the bundle by one that is newer in both respects. -/
theorem consistent_of_justBuilt :
    Reachable "" justBuilt ∧ justBuilt.Consistent "" ∧
      justBuilt.cache.get "A" = .ok (.assemble "A" "library" "old" 1) ∧
      ∃ later, Reaches justBuilt later ∧
        later.cache.get "A" = .ok (.assemble "A" "library" "new" 2) ∧
        ∃ newer snapshot newerSnapshot, later.cache.get "A" = .ok newer ∧
          later.Published (.assemble "A" "library" "old" 1) snapshot ∧
          later.Published newer newerSnapshot ∧ 1 ≤ newer.generation ∧
          snapshot ≤ newerSnapshot := by
  have hreach : Reachable "" justBuilt :=
    ⟨⟨[("A", "old"), ("Core", "library")]⟩, by decide,
      (((((((((Relation.ReflTransGen.refl.tail
        (.call .everything)).tail
        (.lock 0 rfl (by simp [IsFree, start, Stage.hasLock]))).tail
        (.read 0 rfl)).tail
        (.edit ⟨[("A", "new"), ("Core", "library")]⟩ (by decide))).tail
        (.call (.component "A"))).tail
        (.plan 0 rfl rfl rfl (.refl _))).tail
        (.number 0 rfl)).tail
        (.place 0 rfl)).tail
        (.unlock 0 rfl))⟩
  have hlocked : Turn justBuilt _ := .lock 1 rfl (by simp [IsFree, justBuilt, Stage.hasLock])
  have hlater : Reaches justBuilt _ :=
    (((((Relation.ReflTransGen.single hlocked).tail
      (.read 1 rfl)).tail
      (.plan 1 rfl rfl rfl (.refl _))).tail
      (.number 1 rfl)).tail
      (.place 1 rfl)).tail
      (.unlock 1 rfl)
  obtain ⟨hconsistent, hnewer⟩ := consistent_of_reachable hreach
  exact ⟨hreach, hconsistent, rfl, _, hlater, rfl, hnewer hlater rfl⟩

end Workshop

end ServerRender
