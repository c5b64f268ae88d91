import ServerRender.EngineError
import ServerRender.Options.Decoding

/-!
# Failures of a render

Each failure is a cause, and `RenderError.message` gives its wording. Only a full
pool may have room later; every other failure would come again.
-/

namespace ServerRender

/-- The text of props as it may stand in a message: whole up to fifty characters,
else the first forty-seven with three dots. -/
def propsPreview (props : String) : String :=
  let characters := props.toList
  if characters.length > 50 then String.ofList (characters.take 47) ++ "..." else props

/-- What a preview of props shows. -/
inductive Previews (props : String) : String → Prop
  | whole (hshort : props.length ≤ 50) : Previews props props
  | shortened {kept rest : String} (hlong : 50 < props.length) (hprops : props = kept ++ rest)
      (hkept : kept.length = 47) : Previews props (kept ++ "...")

theorem previews_propsPreview (props : String) : Previews props (propsPreview props) := by
  rw [propsPreview]
  split
  · next hlong =>
      have hprops : props =
          String.ofList (props.toList.take 47) ++ String.ofList (props.toList.drop 47) := by
        rw [← String.ofList_append, List.take_append_drop, String.ofList_toList]
      refine .shortened (by rwa [String.length_toList] at hlong) hprops ?_
      rw [String.length_ofList, List.length_take]
      omega
  · next hshort =>
      rw [String.length_toList] at hshort
      exact .whole (Nat.le_of_not_lt hshort)

/-- A component that could not be loaded or that threw. -/
structure ComponentFailure where
  component : String
  propsPreview : String
  cause : EngineError
  deriving DecidableEq, Inhabited

namespace ComponentFailure

def ofCause (component props : String) (cause : EngineError) : ComponentFailure :=
  ⟨component, ServerRender.propsPreview props, cause⟩

def message (failure : ComponentFailure) : String :=
  s!"Encountered error \"{failure.cause.message}\" when prerendering {failure.component} with {failure.propsPreview}"

end ComponentFailure

/-- Why a configuration cannot be used. -/
inductive ConfigProblem where
  | poolOptions (error : DecodingError)
  | emptyPool
  | stated (reason : String)

def ConfigProblem.message : ConfigProblem → String
  | poolOptions error => s!"pool options: {error.message}"
  | emptyPool => "pool size must be at least 1"
  | stated reason => reason

/-- Why a wrapper template cannot be used. -/
inductive TemplateProblem where
  /-- A tag that opens at this byte is never closed. -/
  | unterminated (byte : Nat)
  | unknownVariable (name : String)
  | unknownFilter (name : String)
  | stated (reason : String)
  deriving DecidableEq

def TemplateProblem.message : TemplateProblem → String
  | unterminated byte => s!"unterminated placeholder at byte {byte}"
  | unknownVariable name => s!"unknown variable '{name}'"
  | unknownFilter name => s!"unknown filter '{name}'"
  | stated reason => reason

/-- Why a value has no JSON text. -/
inductive PropsProblem where
  | keyNotText
  deriving DecidableEq

def PropsProblem.message : PropsProblem → String
  | keyNotText => "key must be a string"

inductive RenderError where
  | componentNotFound (component : String)
  | poolExhausted (millis : Nat)
  | poolShutdown
  | prerender (failure : ComponentFailure)
  | engineUnavailable (reason : String)
  | invalidConfig (problem : ConfigProblem)
  | invalidTemplate (problem : TemplateProblem)
  | props (problem : PropsProblem)

namespace RenderError

def message : RenderError → String
  | componentNotFound component => s!"Component not found: {component}"
  | poolExhausted millis =>
    s!"Context pool exhausted: no context available after {millis}ms"
  | poolShutdown => "Context pool has been shut down"
  | prerender failure => failure.message
  | engineUnavailable reason => s!"Script engine unavailable: {reason}"
  | invalidConfig problem => s!"Invalid configuration: {problem.message}"
  | invalidTemplate problem => s!"Invalid wrapper template: {problem.message}"
  | props problem => s!"Failed to serialize props: {problem.message}"

def isNotFound : RenderError → Bool
  | componentNotFound _ => true
  | _ => false

/-- Whether the same request may succeed later. -/
def isRetryable : RenderError → Bool
  | poolExhausted _ => true
  | _ => false

/-- A wait in milliseconds, as far as a word of sixty-four bits counts them. -/
def exhaustedAfter (millis : Nat) : RenderError :=
  poolExhausted (min millis (UInt64.size - 1))

end RenderError

namespace PoolOptions

def validate (options : PoolOptions) : Except RenderError Unit :=
  if options.isValid then .ok () else .error (.invalidConfig .emptyPool)

/-- The valid options of a JSON value. -/
def ofJson (json : Json) : Except RenderError PoolOptions := do
  match decode json with
  | .ok options =>
    options.validate
    return options
  | .error error => throw (.invalidConfig (.poolOptions error))

end PoolOptions

end ServerRender
