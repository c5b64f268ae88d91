import ServerRender.Proofs.CommandLine.Registration

/-!
# Names that are listed more than once

An entry is looked up by its name from the first one on, but sources are taken in from the
first entry to the last, each in place of those before.  The two go to the same entry when
no name is listed twice.  Otherwise the lookup finds the first entry of a name, and what
is rendered under it is the source of the last one.
-/

namespace ServerRender.ConfigFile

variable {read : FileReader} {config : ConfigFile} {name : String} {entry : ComponentEntry}

def Readable (config : ConfigFile) (read : FileReader) : Prop :=
  ∀ entry ∈ config.components, ∃ source, readSource read entry.path = .ok source

/-- The entry is listed, and behind it none of the same name. -/
def IsLast (config : ConfigFile) (entry : ComponentEntry) : Prop :=
  ∃ earlier later, config.components = earlier ++ entry :: later ∧
    ∀ other ∈ later, other.name ≠ entry.name

theorem component?_eq_none_iff :
    config.component? name = none ↔ ∀ entry ∈ config.components, entry.name ≠ name := by
  simp [component?, List.find?_eq_none]

/-- A name that is listed has a last entry. -/
theorem exists_isLast (hlisted : config.component? name ≠ none) :
    ∃ last, config.IsLast last ∧ last.name = name := by
  have hfound : config.components.reverse.find? (·.name == name) ≠ none := by
    rw [Ne, component?_eq_none_iff] at hlisted
    simpa [List.find?_eq_none] using hlisted
  obtain ⟨last, hlast⟩ := Option.ne_none_iff_exists'.mp hfound
  obtain ⟨hname, later, earlier, hreverse, hlater⟩ := List.find?_eq_some_iff_append.mp hlast
  rw [List.reverse_eq_append_iff, List.reverse_cons, List.append_assoc,
    List.singleton_append] at hreverse
  obtain rfl : last.name = name := by simpa using hname
  refine ⟨last, ⟨earlier.reverse, later.reverse, hreverse, fun other hother => ?_⟩, rfl⟩
  simpa using hlater other (List.mem_reverse.mp hother)

/-- Entries of other names give no source. -/
theorem findSome?_eq_none_of_ne {entries : List ComponentEntry}
    (hother : ∀ other ∈ entries, other.name ≠ name) :
    entries.reverse.findSome? (fun other =>
      if other.name = name then (readSource read other.path).toOption else none) = none := by
  rw [List.findSome?_eq_none_iff]
  intro other hmem
  rw [if_neg (hother other (List.mem_reverse.mp hmem))]

/-- The last entry of a name gives its source. -/
theorem source?_of_isLast {source : String} (hlast : config.IsLast entry)
    (hread : readSource read entry.path = .ok source) :
    config.source? read entry.name = some source := by
  obtain ⟨earlier, later, hcomponents, hlater⟩ := hlast
  rw [source?, hcomponents, List.reverse_append, List.reverse_cons, List.append_assoc,
    List.findSome?_append, findSome?_eq_none_of_ne hlater, List.singleton_append,
    List.findSome?_cons, if_pos rfl, hread]
  rfl

/-- Without an entry there is a source for the core library only. -/
theorem source?_of_component?_eq_none (hnone : config.component? name = none)
    (hname : name ≠ CodeBundle.coreComponent) : config.source? read name = none := by
  rw [source?, findSome?_eq_none_of_ne (component?_eq_none_iff.mp hnone), if_neg hname]
  rfl

/-- Where no name stands twice, the entry that a lookup finds is the last one of its
name. -/
theorem isLast_of_nodup (hnodup : (config.components.map ComponentEntry.name).Nodup)
    (hfound : config.component? name = some entry) : config.IsLast entry := by
  obtain ⟨-, earlier, later, hcomponents, -⟩ := List.find?_eq_some_iff_append.mp hfound
  refine ⟨earlier, later, hcomponents, fun other hother hsame => ?_⟩
  rw [hcomponents, List.map_append, List.map_cons] at hnodup
  have hentry := (List.nodup_cons.mp hnodup.of_append_right).1
  exact hentry (hsame ▸ List.mem_map_of_mem hother)

/-- What is registered under a name is the source of its last entry, and nothing is
registered under a name without entries.  So it is the source of the entry that a lookup
finds if no name is listed twice. -/
theorem registered_is_last_listed (hreadable : config.Readable read)
    (hname : name ≠ CodeBundle.coreComponent) :
    ((CommandLine.readSources read config).get? name = none ↔ config.component? name = none) ∧
    (config.component? name ≠ none → ∃ last source, config.IsLast last ∧ last.name = name ∧
      readSource read last.path = .ok source ∧
      (CommandLine.readSources read config).get? name = some source) ∧
    ((config.components.map ComponentEntry.name).Nodup →
      (CommandLine.readSources read config).get? name =
        (config.component? name).bind fun entry => (readSource read entry.path).toOption) := by
  have hregistered : ∀ {last}, config.IsLast last → last.name = name → ∃ source,
      readSource read last.path = .ok source ∧ config.source? read name = some source := by
    rintro last hlast rfl
    have hlisted : last ∈ config.components := by
      obtain ⟨earlier, later, hcomponents, -⟩ := hlast
      simp [hcomponents]
    obtain ⟨source, hread⟩ := hreadable last hlisted
    exact ⟨source, hread, source?_of_isLast hlast hread⟩
  rw [CommandLine.get?_readSources]
  refine ⟨⟨fun hnone => ?_, fun hnone => source?_of_component?_eq_none hnone hname⟩, ?_, ?_⟩
  · by_contra hlisted
    obtain ⟨last, hlast, hsame⟩ := exists_isLast hlisted
    obtain ⟨source, -, hsource⟩ := hregistered hlast hsame
    exact Option.some_ne_none source (hsource.symm.trans hnone)
  · intro hlisted
    obtain ⟨last, hlast, hsame⟩ := exists_isLast hlisted
    obtain ⟨source, hread, hsource⟩ := hregistered hlast hsame
    exact ⟨last, source, hlast, hsame, hread, hsource⟩
  · intro hnodup
    cases hfound : config.component? name with
    | none => exact source?_of_component?_eq_none hfound hname
    | some entry =>
        have hsame : entry.name = name := by simpa using List.find?_some hfound
        obtain ⟨source, hread, hsource⟩ := hregistered (isLast_of_nodup hnodup hfound) hsame
        rw [hsource, Option.bind_some, hread]
        rfl

def listedTwice : ConfigFile :=
  { defaults with components := [⟨"Twice", "first.js"⟩, ⟨"Twice", "second.js"⟩] }

def readPath : FileReader := fun path => .ok path

theorem readable_listedTwice : listedTwice.Readable readPath :=
  fun entry _ => ⟨entry.path, rfl⟩

theorem registered_of_listedTwice :
    listedTwice.Readable readPath ∧ "Twice" ≠ CodeBundle.coreComponent ∧
    listedTwice.component? "Twice" = some ⟨"Twice", "first.js"⟩ ∧
    ∃ last source, listedTwice.IsLast last ∧ last.name = "Twice" ∧
      readSource readPath last.path = .ok source ∧
      (CommandLine.readSources readPath listedTwice).get? "Twice" = some source := by
  have hname : "Twice" ≠ CodeBundle.coreComponent := by decide
  have hfound : listedTwice.component? "Twice" = some ⟨"Twice", "first.js"⟩ := rfl
  refine ⟨readable_listedTwice, hname, hfound, ?_⟩
  exact (registered_is_last_listed readable_listedTwice hname).2.1 (by simp [hfound])

/-- A lookup does not always find the entry whose source is registered. -/
theorem not_forall_registered_eq_looked_up :
    ¬ ∀ (read : FileReader) (config : ConfigFile) (name : String),
      config.Readable read → name ≠ CodeBundle.coreComponent →
      (CommandLine.readSources read config).get? name =
        (config.component? name).bind fun entry => (readSource read entry.path).toOption := by
  intro hforall
  have hagree := hforall readPath listedTwice "Twice" readable_listedTwice (by decide)
  have hregistered : (CommandLine.readSources readPath listedTwice).get? "Twice" =
      some "second.js" := by decide +kernel
  rw [hregistered] at hagree
  exact absurd hagree (by decide)

end ServerRender.ConfigFile
