import ServerRender.Log
import ServerRender.SourceWindow

/-!
# Diagnosis of a failed render

Every failure of an engine is logged once with its message. In development mode each
stack frame follows with the source around its line. Lines are looked up in the
bundle followed by the wrapper script.
-/

namespace ServerRender

structure FailedRender where
  component : String
  urlPath : String
  props : String
  bundle : String
  wrapper : String

namespace FailedRender

/-- The source that frames refer to. -/
def source (failed : FailedRender) : String :=
  failed.bundle ++ "\n" ++ failed.wrapper

/-- One event for each frame, numbered from `index`. -/
def frameEvents (source : String) : Nat → List StackFrame → List Log.Event
  | _, [] => []
  | index, frame :: rest =>
    .frame index frame.text (SourceWindow.render? source frame.line)
      :: frameEvents source (index + 1) rest

/-- What is logged about the failure. -/
def events (mode : RenderMode) (failed : FailedRender) (cause : EngineError) : List Log.Event :=
  let reported := .renderFailed failed.component failed.urlPath cause.isProgram cause.message
  if mode.isDevelopment && !cause.frames.isEmpty then
    reported :: .stackTrace failed.component cause.frames.length
      :: frameEvents failed.source 0 cause.frames
  else [reported]

def failure (failed : FailedRender) (cause : EngineError) : ComponentFailure :=
  .ofCause failed.component failed.props cause

end FailedRender

end ServerRender
