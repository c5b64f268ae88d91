import ServerRender.ConfigFile
import ServerRender.Toml.Reader

/-!
# Configurations from TOML

A table of the configuration has known keys only. In place of a table an array may
list its fields in order; what stands after the last field is passed over. The
document itself is a table.
-/

namespace ServerRender

namespace Toml

def text? : Toml → Option String
  | .string value => some value
  | _ => none

/-- A number that is not negative. -/
def word? : Toml → Option UInt64
  | .integer value => if 0 ≤ value then some (UInt64.ofNat value.toNat) else none
  | _ => none

/-- The items of an array. -/
def items? : Toml → Option (List Toml)
  | .array items => some items
  | _ => none

/-- Takes over the fields of a table one after the other, or the fields of an array
under the given names. -/
def foldFields (fields : List String) (start : α) (add : α → String × Toml → Option α) :
    Toml → Option α
  | .table entries => entries.foldlM add start
  | .array items => (fields.zip items).foldlM add start
  | _ => none

end Toml

namespace PoolOptions

def addField (options : PoolOptions) : String × Toml → Option PoolOptions
  | ("size", value) => value.word?.map options.withSize
  | ("timeout", value) => value.word?.map options.withTimeout
  | _ => none

def ofToml? : Toml → Option PoolOptions :=
  Toml.foldFields ["size", "timeout"] defaults addField

end PoolOptions

namespace RenderMode

/-- A mode is its name, or a table with the name as only key and nothing in it. -/
def ofToml? : Toml → Option RenderMode
  | .string name => ofName? name
  | .table [(name, .table [])] => ofName? name
  | .table [(name, .array [])] => ofName? name
  | _ => none

end RenderMode

namespace RendererConfig

def addField (config : RendererConfig) : String × Toml → Option RendererConfig
  | ("pool", value) => (PoolOptions.ofToml? value).map fun pool => { config with pool }
  | ("mode", value) => (RenderMode.ofToml? value).map fun mode => { config with mode }
  | _ => none

def ofToml? : Toml → Option RendererConfig :=
  Toml.foldFields ["pool", "mode"] defaults addField

end RendererConfig

namespace WrapperConfig

def addField (wrapper : WrapperConfig) : String × Toml → Option WrapperConfig
  | ("template", value) => value.text?.map fun template => { wrapper with template := some template }
  | ("path", value) => value.text?.map fun path => { wrapper with path := some path }
  | _ => none

/-- An array has to list both fields. -/
def ofToml? : Toml → Option WrapperConfig
  | .array (template :: path :: _) => do
    return ⟨some (← template.text?), some (← path.text?)⟩
  | .table entries => entries.foldlM addField ⟨none, none⟩
  | _ => none

end WrapperConfig

/-- The path in the table of the core library. -/
def corePath? : Toml → Option String
  | .table [("path", path)] => path.text?
  | .array (path :: _) => path.text?
  | _ => none

def ComponentEntry.ofToml? : Toml → Option ComponentEntry
  | .table [("name", name), ("path", path)] => do return ⟨← name.text?, ← path.text?⟩
  | .table [("path", path), ("name", name)] => do return ⟨← name.text?, ← path.text?⟩
  | .array (name :: path :: _) => do return ⟨← name.text?, ← path.text?⟩
  | _ => none

namespace ConfigFile

def addField (config : ConfigFile) : String × Toml → Option ConfigFile
  | ("renderer", value) =>
    (RendererConfig.ofToml? value).map fun renderer => { config with renderer }
  | ("wrapper", value) => (WrapperConfig.ofToml? value).map fun wrapper => { config with wrapper }
  | ("core", value) => (corePath? value).map fun core => { config with core := some core }
  | ("components", value) => do
    let components ← (← value.items?).mapM ComponentEntry.ofToml?
    return { config with components }
  | _ => none

/-- The configuration in a text. -/
def ofText (text : String) : Except ConfigFileError ConfigFile :=
  match (Toml.read? text).bind fun entries => entries.foldlM addField defaults with
  | some config => .ok config
  | none => .error .malformed

/-- The configuration in a file, with its paths resolved. -/
def load (read : FileReader) (path : String) : Except ConfigFileError ConfigFile := do
  let text ← readSource read path
  let config ← ofText text
  return config.resolvePaths (FilePath.parent path)

end ConfigFile

end ServerRender
