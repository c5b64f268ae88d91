import ServerRender.CodeBundle
import ServerRender.RenderError
import ServerRender.Table

/-!
# The code cache

One bundle for each component that a registry of sources provides. The cache reads
the registry only when it builds: each operation takes a snapshot of the sources and
builds all its bundles from that one.
-/

namespace ServerRender

/-- The sources of a registry at one moment, the core library among them. -/
abbrev Sources := Table String

structure CodeCache where
  /-- Used when the registry has no core library. -/
  coreLibrary : String
  bundles : Table CodeBundle
  /-- The generation of the bundle published last. -/
  generation : Nat

namespace CodeCache

def empty (coreLibrary : String) : CodeCache :=
  ⟨coreLibrary, Table.empty, 0⟩

def coreSource (cache : CodeCache) (sources : Sources) : String :=
  (sources.get? CodeBundle.coreComponent).getD cache.coreLibrary

/-- Replaces the bundle of a component by a new one. -/
def publish (cache : CodeCache) (core name source : String) : CodeCache where
  coreLibrary := cache.coreLibrary
  bundles := cache.bundles.insert name
    (CodeBundle.assemble name core source (cache.generation + 1))
  generation := cache.generation + 1

/-- Publishes the components of a list one after the other. -/
def publishAll (cache : CodeCache) (core : String) (components : List (String × String)) :
    CodeCache :=
  components.foldl (fun cache component => cache.publish core component.1 component.2) cache

/-- The components that a registry provides. -/
def componentsOf (sources : Sources) : List (String × String) :=
  sources.entries.filter fun entry => entry.1 != CodeBundle.coreComponent

/-- Builds a bundle for every component, and counts them. -/
def buildAll (cache : CodeCache) (sources : Sources) : CodeCache × Nat :=
  let components := componentsOf sources
  (cache.publishAll (cache.coreSource sources) components, components.length)

/-- The cached components that a registry still provides. -/
def cachedSources (cache : CodeCache) (sources : Sources) : List (String × String) :=
  cache.bundles.keys.filterMap fun name => (sources.get? name).map fun source => (name, source)

/-- Rebuilds the bundle of a component; for the core library, every cached bundle. -/
def invalidate (cache : CodeCache) (sources : Sources) (name : String) :
    Except RenderError CodeCache :=
  let core := cache.coreSource sources
  if name = CodeBundle.coreComponent then .ok (cache.publishAll core (cache.cachedSources sources))
  else match sources.get? name with
    | some source => .ok (cache.publish core name source)
    | none => .error (.componentNotFound name)

def get (cache : CodeCache) (name : String) : Except RenderError CodeBundle :=
  match cache.bundles.get? name with
  | some bundle => .ok bundle
  | none => .error (.componentNotFound name)

/-- The names of the cached components in order. -/
def components (cache : CodeCache) : List String :=
  cache.bundles.keys

end CodeCache

end ServerRender
