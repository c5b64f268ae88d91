import Mathlib.Data.List.Induction
import ServerRender.CommandLine.Outcome
import ServerRender.Proofs.CodeCache.Rebuilding

/-!
# What a configuration registers

From the list of components to the bundles that are checked or rendered, entries go
through three hands: the sources are read, the bundles are built, and the names are told
in order.  A file that cannot be read is left out at the first stage, a name that is
listed again takes the place of the earlier one, and the core library goes into every
bundle, but has none of its own.
-/

namespace ServerRender

/-- The text that a configuration gives under a name: that of the last entry with the
name whose file can be read.  The core library has a file of its own, too, which counts
where no such entry is. -/
def ConfigFile.source? (config : ConfigFile) (read : FileReader) (name : String) :
    Option String :=
  let listed := config.components.reverse.findSome? fun entry =>
    if entry.name = name then (readSource read entry.path).toOption else none
  let core := if name = CodeBundle.coreComponent then
    config.core.bind fun path => (readSource read path).toOption else none
  listed.or core

namespace CommandLine

variable {read : FileReader} {config : ConfigFile} {name : String}

def takeIn (read : FileReader) (sources : Sources) (entry : ComponentEntry) : Sources :=
  match readSource read entry.path with
  | .ok source => sources.insert entry.name source
  | .error _ => sources

theorem get?_takeIn (sources : Sources) (entry : ComponentEntry) :
    (takeIn read sources entry).get? name =
      (if entry.name = name then (readSource read entry.path).toOption else none).or
        (sources.get? name) := by
  simp only [takeIn]
  split
  · next source hread =>
      rw [Table.get?_insert, hread]
      split
      · rfl
      · rfl
  · next error hread =>
      rw [hread]
      split
      · rfl
      · rfl

theorem ordered_takeIn {sources : Sources} (hordered : sources.Ordered)
    (entry : ComponentEntry) : (takeIn read sources entry).Ordered := by
  simp only [takeIn]
  split
  · exact hordered.insert entry.name _
  · exact hordered

/-- The entries are taken in from the first to the last, so the last one stays. -/
theorem get?_foldl_takeIn (sources : Sources) (entries : List ComponentEntry) :
    (entries.foldl (takeIn read) sources).get? name =
      (entries.reverse.findSome? fun entry =>
        if entry.name = name then (readSource read entry.path).toOption else none).or
          (sources.get? name) := by
  induction entries using List.reverseRecOn with
  | nil => rfl
  | append_singleton entries last ih =>
      -- The entry that is taken in last is the one that the search asks first.
      rw [List.foldl_append, List.foldl_cons, List.foldl_nil, get?_takeIn, ih,
        List.reverse_append, List.reverse_singleton, List.singleton_append, List.findSome?_cons]
      cases (if last.name = name then (readSource read last.path).toOption else none) with
      | none => rfl
      | some source => rfl

theorem ordered_foldl_takeIn {sources : Sources} (hordered : sources.Ordered)
    (entries : List ComponentEntry) : (entries.foldl (takeIn read) sources).Ordered := by
  induction entries using List.reverseRecOn with
  | nil => exact hordered
  | append_singleton entries last ih =>
      rw [List.foldl_append]
      exact ordered_takeIn ih last

def coreSources (read : FileReader) (config : ConfigFile) : Sources :=
  match config.core.map (readSource read) with
  | some (.ok source) => Table.empty.insert CodeBundle.coreComponent source
  | _ => Table.empty

theorem get?_coreSources :
    (coreSources read config).get? name =
      if name = CodeBundle.coreComponent then
        config.core.bind fun path => (readSource read path).toOption else none := by
  simp only [coreSources]
  cases hcore : config.core with
  | none => simp
  | some path =>
      cases hread : readSource read path with
      | error error => simp [hread, Except.toOption]
      | ok source => simp [hread, Table.get?_insert, Except.toOption, eq_comm]

theorem ordered_coreSources : (coreSources read config).Ordered := by
  simp only [coreSources]
  split
  · exact Table.ordered_empty.insert _ _
  · exact Table.ordered_empty

theorem readSources_eq :
    readSources read config = config.components.foldl (takeIn read) (coreSources read config) :=
  rfl

/-- The registry has a source under a name exactly when the configuration gives one. -/
theorem get?_readSources : (readSources read config).get? name = config.source? read name := by
  rw [readSources_eq, get?_foldl_takeIn, get?_coreSources]
  rfl

theorem ordered_readSources : (readSources read config).Ordered :=
  ordered_foldl_takeIn ordered_coreSources config.components

end CommandLine

namespace ConfigFile

variable {read : FileReader} {config : ConfigFile}

/-- The script that is loaded for a component: the prelude, the core library that the
configuration gives, if any, and the source of the component. -/
def script (config : ConfigFile) (read : FileReader) (source : String) : String :=
  CodeBundle.browserPrelude ++ "\n" ++
    (config.source? read CodeBundle.coreComponent).getD "" ++ ";\n" ++ source ++ ";\n"

/-- The scripts are those of the registered components, in the order of their names: all
under which the configuration gives a source, but for the core library. -/
structure Registers (config : ConfigFile) (read : FileReader)
    (scripts : List (String × String)) : Prop where
  ordered : (scripts.map Prod.fst).Pairwise (· < ·)
  mem_iff : ∀ name script, (name, script) ∈ scripts ↔
    name ≠ CodeBundle.coreComponent ∧
      ∃ source, config.source? read name = some source ∧ script = config.script read source

/-- There is no choice in what is registered. -/
theorem Registers.unique {scripts others : List (String × String)}
    (hscripts : config.Registers read scripts) (hothers : config.Registers read others) :
    scripts = others := by
  have hantisymm : Std.Antisymm (fun first second : String × String => first.1 < second.1) :=
    ⟨fun _ _ hlt hgt => absurd hgt (String.lt_asymm hlt)⟩
  have hirrefl : Std.Irrefl (fun first second : String × String => first.1 < second.1) :=
    ⟨fun entry => String.lt_irrefl entry.1⟩
  apply List.Pairwise.eq_of_mem_iff (List.pairwise_map.mp hscripts.ordered)
    (List.pairwise_map.mp hothers.ordered)
  rintro ⟨name, script⟩
  rw [hscripts.mem_iff, hothers.mem_iff]

def scripts (config : ConfigFile) (read : FileReader) : List (String × String) :=
  (CodeCache.componentsOf (CommandLine.readSources read config)).map fun component =>
    (component.1, config.script read component.2)

theorem map_fst_scripts :
    (config.scripts read).map Prod.fst =
      (CodeCache.componentsOf (CommandLine.readSources read config)).map Prod.fst := by
  rw [scripts, List.map_map]
  rfl

theorem registers_scripts : config.Registers read (config.scripts read) where
  ordered := by
    rw [map_fst_scripts]
    exact CodeCache.pairwise_componentsOf CommandLine.ordered_readSources
  mem_iff := by
    intro name script
    rw [scripts, List.mem_map]
    constructor
    · rintro ⟨⟨_, source⟩, hmem, hentry⟩
      obtain ⟨rfl, rfl⟩ := Prod.ext_iff.mp hentry
      rw [CodeCache.mem_componentsOf_iff CommandLine.ordered_readSources.nodup,
        CommandLine.get?_readSources] at hmem
      exact ⟨hmem.1, source, hmem.2, rfl⟩
    · rintro ⟨hname, source, hsource, rfl⟩
      refine ⟨(name, source), ?_, rfl⟩
      rw [CodeCache.mem_componentsOf_iff CommandLine.ordered_readSources.nodup,
        CommandLine.get?_readSources]
      exact ⟨hname, hsource⟩

end ConfigFile

namespace CommandLine

variable {read : FileReader} {config : ConfigFile}

/-- A cache that is built from what was read has the components that are registered. -/
theorem components_of_readSources :
    ((CodeCache.empty "").buildAll (readSources read config)).1.components =
      (config.scripts read).map Prod.fst := by
  rw [CodeCache.components_buildAll ordered_readSources, ConfigFile.map_fst_scripts]

/-- And it has their scripts. -/
theorem get_of_readSources {name script : String} (hmem : (name, script) ∈ config.scripts read) :
    ∃ number, ((CodeCache.empty "").buildAll (readSources read config)).1.get name =
      .ok ⟨name, script, number⟩ := by
  obtain ⟨⟨_, source⟩, hcomponent, hentry⟩ := List.mem_map.mp hmem
  obtain ⟨rfl, rfl⟩ := Prod.ext_iff.mp hentry
  obtain ⟨number, hget⟩ := CodeCache.get_buildAll ordered_readSources "" hcomponent
  refine ⟨number, ?_⟩
  rw [hget, get?_readSources]
  rfl

end CommandLine

end ServerRender
