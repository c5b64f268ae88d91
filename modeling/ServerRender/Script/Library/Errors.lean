import ServerRender.Script.Library.Basic

/-!
# Errors

The classes of error objects. All but the first inherit from it, the constructors as
well as the prototypes.
-/

namespace ServerRender.Script

namespace Run

/-- Adds an error object for `new`. -/
def addErrorFor (className : String) (message options target : Value) : Run Nat := do
  let id ← addFor target className (.ofKind (.error className) .empty)
  if message != .undefined then store id (.name "message") (.unlisted (.text (← textOf message)))
  if let .object source := options then
    if ← hasProperty source (.name "cause") then
      store id (.name "cause") (.unlisted (← read source (.name "cause")))
  return id

def makeError (className : String) : Making := fun arguments target => do
  if className == "AggregateError" then
    let id ← addErrorFor className (argument arguments 1) (argument arguments 2) target
    let items ← listOf (argument arguments 0)
    store id (.name "errors") (.unlisted (← addArray items))
    return .object id
  else return .object (← addErrorFor className (argument arguments 0) (argument arguments 1) target)

def errorText : Native := fun this _ => do
  let .object id := this | throwType "'this' is not an Object"
  let part (name default : String) : Run (List UInt16) := do
    textOr (← read id (.name name)) (Text.units default)
  let name ← part "name" "Error"
  let message ← part "message" ""
  if name.isEmpty then return .text message
  else if message.isEmpty then return .text name
  else return .text (name ++ Text.units ": " ++ message)

end Run

open Run in
/-- A class of errors. -/
def Class.error (className : String) : Class where
  name := className
  length := if className == "AggregateError" then 2 else 1
  call := fun _ arguments => makeError className arguments .undefined
  making := some (makeError className)
  statics := []
  methods :=
    [.constant (.name "name") (.unlisted (.ofString className)),
      .constant (.name "message") (.unlisted (.text []))]
    ++ (if className == "Error" then [.method "toString" 0 errorText] else [])

end ServerRender.Script
