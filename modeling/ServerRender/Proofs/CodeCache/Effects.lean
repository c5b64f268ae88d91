import ServerRender.Proofs.CodeCache.Rebuilding

/-!
# What the operations of a cache change

To rebuild one component replaces its bundle and nothing else, and a component that the
registry does not have leaves the whole cache as it was.  To rebuild everything replaces
the bundles of all the components that the registry has and no others.  Either holds of a
cache that works in one go, and of a cache with any number of writers from the moment at
which one of them gets the lock to the turn with which it gives it back.
-/

namespace ServerRender

namespace CodeCache

variable {cache after : CodeCache} {sources : Sources} {library name source : String}
variable {components : List (String × String)}

/-- A component was to be rebuilt.  The outcome is a failure exactly if the sources do not
have the component. -/
structure Rebuilt (before : CodeCache) (library : String) (sources : Sources) (name : String)
    (failure : Option RenderError) (after : CodeCache) : Prop where
  failed_iff : failure = some (.componentNotFound name) ↔ sources.get? name = none
  /-- No other failure is possible, and none leaves a trace. -/
  untouched : ∀ {error : RenderError}, failure = some error →
    error = .componentNotFound name ∧ after = before
  replaced : ∀ {source : String}, sources.get? name = some source →
    failure = none ∧ after.generation = before.generation + 1 ∧
      after.get name = .ok (.assemble name
        ((sources.get? CodeBundle.coreComponent).getD library) source
        (before.generation + 1))
  kept : ∀ {other : String}, other ≠ name → after.get other = before.get other

theorem get_publish_of_ne {core other : String} (hother : other ≠ name) :
    (cache.publish core name source).get other = cache.get other := by
  simp only [get, publish, Table.get?_insert, if_neg hother.symm]

theorem rebuilt_of_missing (hnone : sources.get? name = none) :
    cache.Rebuilt library sources name (some (.componentNotFound name)) cache where
  failed_iff := iff_of_true rfl hnone
  untouched hfailure := ⟨(Option.some.inj hfailure).symm, rfl⟩
  replaced := by
    intro source hsource
    rw [hnone] at hsource
    contradiction
  kept _ := rfl

theorem rebuilt_publish (hlibrary : cache.coreLibrary = library)
    (hsource : sources.get? name = some source) :
    cache.Rebuilt library sources name none
      (cache.publish (cache.coreSource sources) name source) where
  failed_iff := by simp [hsource]
  untouched hfailure := by contradiction
  replaced := by
    intro found hfound
    obtain rfl : source = found := Option.some.inj (hsource.symm.trans hfound)
    refine ⟨rfl, rfl, ?_⟩
    rw [get_eq_ok_iff, publish, Table.get?_insert, if_pos rfl, coreSource, hlibrary]
  kept := get_publish_of_ne

/-- What is due when one component is to be rebuilt. -/
theorem due_of_ne_core (hname : name ≠ CodeBundle.coreComponent) :
    cache.due sources name = match sources.get? name with
      | some source => .ok [(name, source)]
      | none => .error (.componentNotFound name) :=
  if_neg hname

/-- The two ways in which it ends. -/
theorem rebuilt_of_due (hlibrary : cache.coreLibrary = library)
    (hname : name ≠ CodeBundle.coreComponent)
    (hdue : cache.due sources name = .ok components) :
    cache.Rebuilt library sources name none
      (cache.publishAll (cache.coreSource sources) components) := by
  rw [due_of_ne_core hname] at hdue
  cases hsource : sources.get? name with
  | none =>
      rw [hsource] at hdue
      contradiction
  | some source =>
      rw [hsource] at hdue
      obtain rfl := Except.ok.inj hdue
      exact rebuilt_publish hlibrary hsource

theorem rebuilt_of_due_error {error : RenderError} (library : String)
    (hname : name ≠ CodeBundle.coreComponent)
    (hdue : cache.due sources name = .error error) :
    cache.Rebuilt library sources name (some error) cache := by
  rw [due_of_ne_core hname] at hdue
  cases hsource : sources.get? name with
  | none =>
      rw [hsource] at hdue
      obtain rfl := Except.error.inj hdue
      exact rebuilt_of_missing hsource
  | some source =>
      rw [hsource] at hdue
      contradiction

/-- What a call made of a cache: one that fails hands no new cache out. -/
def outcome (before : CodeCache) :
    Except RenderError CodeCache → Option RenderError × CodeCache
  | .ok after => (none, after)
  | .error error => (some error, before)

theorem rebuilt_invalidate (hlibrary : cache.coreLibrary = library) (sources : Sources)
    (hname : name ≠ CodeBundle.coreComponent) :
    cache.Rebuilt library sources name (cache.outcome (cache.invalidate sources name)).1
      (cache.outcome (cache.invalidate sources name)).2 := by
  rw [invalidate_eq_publishAll]
  cases hdue : cache.due sources name with
  | ok components => exact rebuilt_of_due hlibrary hname hdue
  | error error => exact rebuilt_of_due_error library hname hdue

/-- The bundles of all components that the sources have were built, `count` of them. -/
structure Built (before : CodeCache) (library : String) (sources : Sources) (count : Nat)
    (after : CodeCache) : Prop where
  counted : ∃ names : List String, names.Nodup ∧ names.length = count ∧
    ∀ name, name ∈ names ↔
      name ≠ CodeBundle.coreComponent ∧ (sources.get? name).isSome
  numbered : after.generation = before.generation + count
  replaced : ∀ {name source : String}, name ≠ CodeBundle.coreComponent →
    sources.get? name = some source →
    ∃ number, before.generation < number ∧ after.get name = .ok (.assemble name
      ((sources.get? CodeBundle.coreComponent).getD library) source number)
  kept : ∀ {name : String}, name = CodeBundle.coreComponent ∨ sources.get? name = none →
    after.get name = before.get name

theorem exists_names_of_componentsOf (hkeys : sources.keys.Nodup) :
    ∃ names : List String, names.Nodup ∧ names.length = (componentsOf sources).length ∧
      ∀ name, name ∈ names ↔
        name ≠ CodeBundle.coreComponent ∧ (sources.get? name).isSome := by
  have hsublist : ((componentsOf sources).map Prod.fst).Sublist sources.keys :=
    List.filter_sublist.map Prod.fst
  refine ⟨(componentsOf sources).map Prod.fst, hkeys.sublist hsublist, List.length_map _, ?_⟩
  intro name
  simp only [List.mem_map, Prod.exists, exists_and_right, exists_eq_right,
    mem_componentsOf_iff hkeys, exists_and_left, Option.isSome_iff_exists]

/-- The order in which the bundles are published does not matter. -/
theorem built_publishAll (hlibrary : cache.coreLibrary = library)
    (hkeys : sources.keys.Nodup) (hcomponents : components.Perm (componentsOf sources)) :
    cache.Built library sources components.length
      (cache.publishAll (cache.coreSource sources) components) where
  counted := by
    rw [hcomponents.length_eq]
    exact exists_names_of_componentsOf hkeys
  numbered := generation_publishAll
  replaced := by
    intro name source hname hsource
    have hmem_iff : ∀ other, (name, other) ∈ components ↔ sources.get? name = some other := by
      intro other
      rw [hcomponents.mem_iff, mem_componentsOf_iff hkeys, and_iff_right hname]
    have hsame : ∀ other, (name, other) ∈ components → other = source := by
      intro other hother
      exact Option.some.inj (((hmem_iff other).mp hother).symm.trans hsource)
    obtain ⟨number, hlt, hbundle⟩ := get?_publishAll_of_mem (cache.coreSource sources)
      ((hmem_iff source).mpr hsource) hsame
    refine ⟨number, hlt, ?_⟩
    rw [get_eq_ok_iff, hbundle, coreSource, hlibrary]
  kept := by
    intro name hname
    have hnot_mem : ∀ source, (name, source) ∉ components := by
      intro source hmem
      rw [hcomponents.mem_iff, mem_componentsOf_iff hkeys] at hmem
      rcases hname with hcore | hnone
      · exact hmem.1 hcore
      · rw [hnone] at hmem
        exact absurd hmem.2 (by simp)
    simp only [get, get?_publishAll_of_not_mem hnot_mem]

end CodeCache

/-! ## A writer's time with the lock -/

namespace Workshop

variable {workshop earlier next later : Workshop} {library : String}
variable {index : Nat} {order : Order} {outcome : Stage}

theorem ordered_of_turn (hordered : workshop.cache.bundles.Ordered)
    (hturn : Turn workshop next) : next.cache.bundles.Ordered := by
  cases hturn with
  | place index hwriter => exact hordered.insert _ _
  | _ => exact hordered

theorem ordered_of_reachable (hreach : Reachable library workshop) :
    workshop.cache.bundles.Ordered := by
  obtain ⟨sources, -, hreach⟩ := hreach
  induction hreach with
  | refl => exact Table.ordered_empty
  | tail _ hturn ih => exact ordered_of_turn ih hturn

/-- The turn with which a writer gives the lock back, whatever it has come to. -/
structure Releases (index : Nat) (order : Order) (outcome : Stage)
    (workshop next : Workshop) : Prop where
  turn : Turn workshop next
  before : ∃ stage, workshop.writers[index]? = some ⟨order, stage⟩ ∧ stage.hasLock = true
  after : next.writers[index]? = some ⟨order, outcome⟩
  given : outcome.hasLock = false

def Stage.failure? : Stage → Option RenderError
  | failed error => some error
  | _ => none

def Order.Effect (before : CodeCache) (library : String) (sources : Sources)
    (outcome : Stage) (after : CodeCache) : Order → Prop
  | everything =>
    outcome.failure? = none ∧ ∃ count, before.Built library sources count after
  | component name => name ≠ CodeBundle.coreComponent →
    before.Rebuilt library sources name outcome.failure? after

/-- A writer gives the lock back when it has published all that is due, or when it finds
that the component is missing. -/
theorem Releases.cases (hreleases : Releases index order outcome workshop next) :
    next.cache = workshop.cache ∧ next.snapshots = workshop.snapshots ∧
      ((∃ snapshot core, workshop.writers[index]? = some ⟨order, .writing snapshot core []⟩ ∧
          outcome = .done snapshot) ∨
        ∃ snapshot sources error,
          workshop.writers[index]? = some ⟨order, .planning snapshot⟩ ∧
          workshop.snapshots[snapshot]? = some sources ∧
          order.due workshop.cache sources = .error error ∧ outcome = .failed error) := by
  obtain ⟨hturn, ⟨stage, hbefore, hlock⟩, hafter, hgiven⟩ := hreleases
  -- A turn of another writer leaves this one's stage, which still has the lock.
  have hown : ∀ {other : Nat} {acting : Order} {earlier newer : Stage},
      workshop.writers[other]? = some ⟨acting, earlier⟩ →
      (workshop.writers.set other ⟨acting, newer⟩)[index]? = some ⟨order, outcome⟩ →
      workshop.writers[index]? = some ⟨order, earlier⟩ ∧ acting = order ∧ newer = outcome := by
    intro other acting earlier newer hearlier hset
    rcases getElem?_set_cases hset with ⟨rfl, hwriter⟩ | ⟨-, hsame⟩
    · obtain ⟨rfl, rfl⟩ := Writer.mk.inj hwriter
      exact ⟨hearlier, rfl, rfl⟩
    · obtain ⟨-, rfl⟩ := Writer.mk.inj (Option.some.inj (hbefore.symm.trans hsame))
      rw [hlock] at hgiven
      contradiction
  cases hturn with
  | edit sources hkeys =>
      obtain ⟨-, rfl⟩ := Writer.mk.inj (Option.some.inj (hbefore.symm.trans hafter))
      rw [hlock] at hgiven
      contradiction
  | call newcomer =>
      have hindex := (List.getElem?_eq_some_iff.mp hbefore).1
      rw [List.getElem?_append_left hindex] at hafter
      obtain ⟨-, rfl⟩ := Writer.mk.inj (Option.some.inj (hbefore.symm.trans hafter))
      rw [hlock] at hgiven
      contradiction
  | fail other hwriter hsnapshot hdue =>
      obtain ⟨hplanning, rfl, rfl⟩ := hown hwriter hafter
      exact ⟨rfl, rfl, .inr ⟨_, _, _, hplanning, hsnapshot, hdue, rfl⟩⟩
  | unlock other hwriter =>
      obtain ⟨hwriting, rfl, rfl⟩ := hown hwriter hafter
      exact ⟨rfl, rfl, .inl ⟨_, _, hwriting, rfl⟩⟩
  | lock other hwriter _ | read other hwriter | plan other hwriter _ _ _
  | number other hwriter | place other hwriter =>
      rw [← (hown hwriter hafter).2.2] at hgiven
      contradiction

/-- What a writer has done between the moment at which it got the lock and the turn with
which it gives it back is the effect of its order on the cache, with the registry as it
was read in between. -/
theorem effect_of_releases (hreach : Reachable library workshop)
    (hlocked : workshop.writers[index]? = some ⟨order, .locked⟩)
    (hlater : Reaches workshop earlier)
    (hreleases : Releases index order outcome earlier later) :
    ∃ snapshot sources, workshop.snapshots.length ≤ snapshot ∧
      later.snapshots[snapshot]? = some sources ∧
      order.Effect workshop.cache library sources outcome later.cache := by
  have hlibrary := (kept_of_reachable hreach).library_eq
  obtain ⟨hcache, hsnapshots, hends⟩ := hreleases.cases
  rw [hcache, hsnapshots]
  rcases hends with ⟨written, core, hwriting, rfl⟩ |
    ⟨snapshot, sources, error, hplanning, hsnapshot, hdue, rfl⟩
  · obtain ⟨sources, all, published, htaken, hsnapshot, hdue, hperm, hpublished, -⟩ :=
      exists_publishAll_of_writing hreach hlocked hlater hwriting
    refine ⟨written, sources, htaken, hsnapshot, ?_⟩
    rw [hpublished]
    cases order with
    | everything =>
        obtain rfl := Except.ok.inj hdue
        have hkeys := (kept_of_reachable (hreach.trans hlater)).keys_nodup sources
          (List.mem_cons_of_mem _ (List.mem_of_getElem? hsnapshot))
        exact ⟨rfl, _, CodeCache.built_publishAll hlibrary hkeys hperm⟩
    | component name =>
        intro hname
        obtain rfl : published = all := by
          rw [Order.due, CodeCache.due_of_ne_core hname] at hdue
          split at hdue
          · obtain rfl := Except.ok.inj hdue
            exact List.perm_singleton.mp hperm
          · contradiction
        exact CodeCache.rebuilt_of_due hlibrary hname hdue
  · obtain ⟨stage, hwriter, hsince⟩ := since_of_reaches hreach hlocked hlater
    obtain rfl := (Writer.mk.inj (Option.some.inj (hwriter.symm.trans hplanning))).2
    obtain ⟨hsame, htaken⟩ := hsince
    refine ⟨snapshot, sources, htaken, hsnapshot, ?_⟩
    rw [hsame] at hdue ⊢
    cases order with
    | everything => contradiction
    | component name =>
        intro hname
        exact CodeCache.rebuilt_of_due_error library hname hdue

/-- The operations of a cache change what they are asked to change and nothing else.  The
names of the components are always those for which there is a bundle, each once and in
order.  To rebuild a component fails exactly if the registry does not have it, and then
nothing has changed; otherwise its bundle alone is new, with the next number.  To rebuild
everything replaces the bundles of all components of the registry, and leaves those of
other components.  All that holds of a call that is made in one go with any registry, and
of one that many others meet, from the lock to its release, with the registry as the
writer has read it in between. -/
theorem operations_change_only_their_own (hreach : Reachable library workshop) :
    workshop.cache.components.Pairwise (· < ·) ∧
    (∀ name, name ∈ workshop.cache.components ↔
      ∃ bundle, workshop.cache.get name = .ok bundle) ∧
    (∀ sources : Sources, sources.keys.Nodup →
      (∀ name, name ≠ CodeBundle.coreComponent →
        workshop.cache.Rebuilt library sources name
          (workshop.cache.outcome (workshop.cache.invalidate sources name)).1
          (workshop.cache.outcome (workshop.cache.invalidate sources name)).2) ∧
      workshop.cache.Built library sources (workshop.cache.buildAll sources).2
        (workshop.cache.buildAll sources).1) ∧
    ∀ {index : Nat} {order : Order} {outcome : Stage} {earlier later : Workshop},
      workshop.writers[index]? = some ⟨order, .locked⟩ → Reaches workshop earlier →
      Releases index order outcome earlier later →
      ∃ snapshot sources, workshop.snapshots.length ≤ snapshot ∧
        later.snapshots[snapshot]? = some sources ∧
        order.Effect workshop.cache library sources outcome later.cache := by
  have hlibrary := (kept_of_reachable hreach).library_eq
  refine ⟨ordered_of_reachable hreach, fun name => CodeCache.mem_components_iff, ?_, ?_⟩
  · intro sources hkeys
    refine ⟨fun name hname => CodeCache.rebuilt_invalidate hlibrary sources hname, ?_⟩
    exact CodeCache.built_publishAll hlibrary hkeys (.refl _)
  · intro index order outcome earlier later hlocked hlater hreleases
    exact effect_of_releases hreach hlocked hlater hreleases

/-- A cache was built from two components.  One of them has gone from the registry, the
other was edited, and a writer that is to rebuild the first one has got the lock. -/
def dwindled : Workshop where
  cache := ((CodeCache.empty "").buildAll ⟨[("A", "a"), ("B", "b")]⟩).1
  sources := ⟨[("A", "new")]⟩
  snapshots := [⟨[("A", "a"), ("B", "b")]⟩]
  archive := CodeCache.firstArchive "" 0 ⟨[("A", "a"), ("B", "b")]⟩
  writers := [⟨.everything, .done 0⟩, ⟨.component "B", .locked⟩]

/-- The writer fails and leaves the cache as it was.  In one go, the other component would
be replaced alone. -/
theorem operations_of_dwindled :
    Reachable "" dwindled ∧
      (∃ later, Releases 1 (.component "B") (.failed (.componentNotFound "B"))
          { dwindled with
            snapshots := dwindled.snapshots ++ [dwindled.sources]
            writers := [⟨.everything, .done 0⟩, ⟨.component "B", .planning 1⟩] } later ∧
        later.cache = dwindled.cache) ∧
      ∃ after, dwindled.cache.invalidate dwindled.sources "A" = .ok after ∧
        after.generation = 3 ∧ after.get "A" = .ok (.assemble "A" "" "new" 3) ∧
        after.get "B" = .ok (.assemble "B" "" "b" 2) := by
  have hreach : Reachable "" dwindled :=
    ⟨⟨[("A", "a"), ("B", "b")]⟩, by decide,
      ((((((((((((Relation.ReflTransGen.refl.tail
        (.call .everything)).tail
        (.lock 0 rfl (by simp [IsFree, start, Stage.hasLock]))).tail
        (.read 0 rfl)).tail
        (.plan 0 rfl rfl rfl (.refl _))).tail
        (.number 0 rfl)).tail
        (.place 0 rfl)).tail
        (.number 0 rfl)).tail
        (.place 0 rfl)).tail
        (.unlock 0 rfl)).tail
        (.edit ⟨[("A", "new")]⟩ (by decide))).tail
        (.call (.component "B"))).tail
        (.lock 1 rfl (by simp [IsFree, start, Stage.hasLock])))⟩
  obtain ⟨-, -, hcalls, hwriters⟩ := operations_change_only_their_own hreach
  have hread : Turn dwindled _ := .read 1 rfl
  have hreleases : Releases 1 (.component "B") (.failed (.componentNotFound "B"))
      { dwindled with
        snapshots := dwindled.snapshots ++ [dwindled.sources]
        writers := [⟨.everything, .done 0⟩, ⟨.component "B", .planning 1⟩] } _ :=
    ⟨.fail 1 rfl rfl rfl, ⟨_, rfl, rfl⟩, rfl, rfl⟩
  obtain ⟨snapshot, sources, -, -, heffect⟩ := hwriters rfl (.single hread) hreleases
  have hfailed := (heffect (by decide)).untouched rfl
  have hrebuilt := (hcalls dwindled.sources (by decide)).1 "A" (by decide)
  obtain ⟨-, hgeneration, hnew⟩ := hrebuilt.replaced rfl
  refine ⟨hreach, ⟨_, hreleases, hfailed.2⟩, _, rfl, hgeneration, hnew, ?_⟩
  exact hrebuilt.kept (by decide)

end Workshop

end ServerRender
