import ServerRender.FileSystem
import ServerRender.Options

/-!
# Configuration files

A configuration names the options of the renderer, the wrapper template, a core
library and the components, each with the path of its script. Relative paths are seen
from the directory of the configuration file.
-/

namespace ServerRender

structure WrapperConfig where
  template : Option String
  path : Option String
  deriving DecidableEq, Inhabited

structure ComponentEntry where
  name : String
  path : String
  deriving DecidableEq, Inhabited

structure ConfigFile where
  renderer : RendererConfig
  wrapper : WrapperConfig
  /-- The path of the core library. -/
  core : Option String
  components : List ComponentEntry
  deriving DecidableEq, Inhabited

inductive ConfigFileError where
  | unreadable (path : String) (error : FileError)
  /-- The text is no TOML, or not a configuration. -/
  | malformed
  | wrapperTwice
  | wrapperMissing
  deriving DecidableEq, Inhabited

/-- The message; what is wrong with a malformed text is not part of it. -/
def ConfigFileError.message : ConfigFileError → String
  | unreadable path error => s!"Failed to read '{path}': {error.message}"
  | malformed => "Failed to parse config file: "
  | wrapperTwice =>
    "Invalid config file: wrapper: set either \x60template\x60 or \x60path\x60, not both"
  | wrapperMissing => "Invalid config file: wrapper: a template is required"

/-- The text of a file that the configuration names. -/
def readSource (read : FileReader) (path : String) : Except ConfigFileError String :=
  (read path).mapError (.unreadable path)

/-- The template text, from the configuration itself or from a file. -/
def WrapperConfig.load (wrapper : WrapperConfig) (read : FileReader) :
    Except ConfigFileError String :=
  match wrapper.template, wrapper.path with
  | some template, none => .ok template
  | none, some path => readSource read path
  | some _, some _ => .error .wrapperTwice
  | none, none => .error .wrapperMissing

namespace ConfigFile

def defaults : ConfigFile :=
  ⟨RendererConfig.defaults, ⟨none, none⟩, none, []⟩

/-- The first entry with a name. -/
def component? (config : ConfigFile) (name : String) : Option ComponentEntry :=
  config.components.find? fun entry => entry.name == name

def resolvePaths (config : ConfigFile) (directory : String) : ConfigFile where
  renderer := config.renderer
  wrapper := { config.wrapper with
    path := config.wrapper.path.map (FilePath.resolve directory) }
  core := config.core.map (FilePath.resolve directory)
  components := config.components.map fun entry =>
    { entry with path := FilePath.resolve directory entry.path }

end ConfigFile

end ServerRender
