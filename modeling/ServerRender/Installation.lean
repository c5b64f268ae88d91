import ServerRender.CodeCache
import ServerRender.Diagnosis
import ServerRender.ExecutionContext
import ServerRender.Pool.Schedule
import ServerRender.Template

/-!
# Installations

What a renderer works with until it is set up anew: a cache of bundles, a pool of
contexts with its callers, the wrapper template and the mode.
-/

namespace ServerRender

structure Setup where
  wrapper : String
  coreLibrary : String
  config : RendererConfig

/-- What a call has that was let into an installation. -/
structure Installation (Environment : Type) where
  cache : CodeCache
  desk : Pool.Desk (ExecutionContext Environment)
  template : Template
  mode : RenderMode
  /-- How long a call waits for a context. -/
  millis : Nat

namespace Installation

variable {Environment : Type}

/-- Sets up an installation with a bundle for every component of the registry. The
template is looked at before the options. -/
def build (setup : Setup) (sources : Sources) : Except RenderError (Installation Environment) := do
  let template ← (Template.parse setup.wrapper).mapError .invalidTemplate
  setup.config.pool.validate
  return {
    cache := ((CodeCache.empty setup.coreLibrary).buildAll sources).1
    desk := .create setup.config.pool.size.toNat
    template
    mode := setup.config.mode
    millis := setup.config.pool.timeout.toNat * 1000 }

/-- The markup in the value of a wrapper script. A value other than text is written as
JSON. -/
def outputOf : Json → Except EngineError String
  | .object members =>
    match (Json.object members).get? "outputValue" with
    | some (.string markup) => .ok markup
    | some .null => .error (.runtime "render entry point produced no output" [])
    | none => .error (.runtime "render entry point produced no output" [])
    | some other => .ok other.write
  | other =>
    .error (.runtime s!"render wrapper returned {other.write} instead of an output holder" [])

/-- The failure that a caller is told, and what is logged. An engine out of reach is
no fault of the component. -/
def fail (installation : Installation Environment) (failed : FailedRender) (cause : EngineError) :
    RenderError × List Log.Event :=
  match cause with
  | .unavailable message => (.engineUnavailable message, [])
  | _ => (.prerender (failed.failure cause), failed.events installation.mode cause)

end Installation

end ServerRender
