import ServerRender.StackFrame

/-!
# Failures of a script engine

A script can fail to compile or load, it can throw while it runs, and the engine
itself can be out of reach.
-/

namespace ServerRender

inductive EngineError where
  /-- The script did not compile, or threw while it was loaded. -/
  | program (message : String) (frames : List StackFrame)
  /-- The script threw while it ran. -/
  | runtime (message : String) (frames : List StackFrame)
  /-- The engine could not be started, was lost or has stopped. -/
  | unavailable (message : String)
  deriving DecidableEq, Inhabited

namespace EngineError

def message : EngineError → String
  | program message _ => message
  | runtime message _ => message
  | unavailable message => message

/-- The calls that were open, the latest first. -/
def frames : EngineError → List StackFrame
  | program _ frames => frames
  | runtime _ frames => frames
  | unavailable _ => []

def isProgram : EngineError → Bool
  | program _ _ => true
  | _ => false

def isUnavailable : EngineError → Bool
  | unavailable _ => true
  | _ => false

end EngineError

end ServerRender
