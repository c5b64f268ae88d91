import ServerRender.EngineError
import ServerRender.Script.Display
import ServerRender.Script.Lookup
import ServerRender.StackTrace

/-!
# Failures of a script

How what a script throws becomes an engine error. An error object is described by its
name and message, any other value by its display form. A syntax error that the engine
finds tells its position at the end of its message; other errors have the frames of
their `stack`, if they hold one.
-/

namespace ServerRender.Script

/-- The place of a parse fault by the end of its message, ` at line L, col C`. The
column may be unreadable, the line not. -/
def parseFrame? (message : String) : Option StackFrame := do
  let (_, position) ← Text.splitLast? " at line ".toList message.toList
  let (line, column) ← Text.splitFirst? ", col ".toList position
  return ⟨"<parse>", ← Text.readUInt32? (Text.trim line), Text.readUInt32? (Text.trim column)⟩

/-- What is known of something that was thrown. -/
structure Description where
  isSyntaxError : Bool
  message : String
  frames : List StackFrame

namespace Description

/-- The error of a failed load. -/
def loadError (description : Description) : EngineError :=
  .program description.message
    (if description.isSyntaxError then (parseFrame? description.message).toList else [])

/-- The error of a failed evaluation. -/
def evalError (description : Description) : EngineError :=
  if description.isSyntaxError then
    .program description.message (parseFrame? description.message).toList
  else .runtime description.message description.frames

end Description

/-- The description of an object by parts that may be missing, and else by another
text. -/
def describeBy (name message : Option String) (shown : String) : String :=
  match name, message with
  | some name, some message => if message.isEmpty then name else name ++ ": " ++ message
  | some name, none => name
  | none, some message => message
  | none, none => shown

namespace Run

/-- A property that reads as a string. What reading throws does not matter. -/
def textProperty? (id : Nat) (name : String) : Run (Option String) :=
  tryCatch (do
    match ← read id (.name name) with
    | .text units => return some (Text.ofUnits units)
    | _ => return none) fun _ => return none

/-- What is thrown, for those who do not know scripts. -/
def describeThrown (thrown : Thrown) : Run Description := do
  match thrown with
  | .native error => return ⟨error.isSyntax, error.describe, []⟩
  | .value (.object id) =>
    let name ← textProperty? id "name"
    let message ← textProperty? id "message"
    let stack ← textProperty? id "stack"
    return ⟨false, describeBy name message ((← heap).display (.object id)),
      (stack.map StackTrace.parse).getD []⟩
  | .value value => return ⟨false, (← heap).display value, []⟩
  | _ => return ⟨false, NativeError.tooManyCalls.describe, []⟩

end Run

end ServerRender.Script
