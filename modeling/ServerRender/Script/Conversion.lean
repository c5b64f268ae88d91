import ServerRender.Json.Basic
import ServerRender.Script.Value

/-!
# Values as JSON

The tree of a value. What JSON has no form for becomes null: undefined, symbols, big
integers, functions and numbers that are not finite. Symbol keys are left out. The
objects that are being converted stand on a stack, the innermost on top: an object
that is met inside itself, or inside too many others, ends the conversion. How objects
are looked at is a parameter, since to read a property can run code.
-/

namespace ServerRender.Script

/-- How many objects may be converted inside each other. -/
def maxDepth : Nat := 128

def cyclicOutput : NativeError :=
  .typeError "cyclic object value in render output"

def deepOutput : NativeError :=
  .typeError ("render output nests deeper than " ++ toString maxDepth ++ " levels")

/-- Whole numbers below `2 ^ 53` stay whole. -/
def jsonOfDouble (x : Double) : Json :=
  match x.toInt? with
  | some n => if n.natAbs < Nat.pow 2 53 then .ofInt n else .number (.double x)
  | none => if x.isFinite then .number (.double x) else .null

/-- How an object is converted. -/
inductive Shape where
  /-- It has no form. -/
  | function
  /-- An array of so many items. -/
  | array (length : Nat)
  | members

/-- How objects are looked at. -/
structure View (m : Type → Type) where
  shape : Nat → m Shape
  /-- The keys of an object itself. -/
  keys : Nat → m (Except Thrown (List Key))
  read : Nat → Key → m (Except Thrown Value)

/-- The result of a conversion and the stack of objects that it leaves. -/
abbrev Converted (α : Type) := Except Thrown α × List Nat

variable {m : Type → Type} [Monad m]

/-- Converts one member of an object after the other. Reading a member can throw. -/
def convertMembers (view : View m) (convert : Value → List Nat → m (Converted Json)) (id : Nat)
    (stack : List Nat) : List (String × Key) → m (Converted (List (String × Json)))
  | [] => return (.ok [], stack)
  | (name, key) :: rest => do
    match ← view.read id key with
    | .error thrown => return (.error thrown, stack)
    | .ok value =>
      match ← convert value stack with
      | (.error thrown, after) => return (.error thrown, after)
      | (.ok json, after) =>
        match ← convertMembers view convert id after rest with
        | (.error thrown, last) => return (.error thrown, last)
        | (.ok members, last) => return (.ok ((name, json) :: members), last)

/-- The keys that are converted, under their names. -/
def namedKeys (keys : List Key) : List (String × Key) :=
  keys.filterMap fun key => key.text?.map fun name => (name, key)

/-- The content of an object that stands on the stack. -/
def convertContent (view : View m) (convert : Value → List Nat → m (Converted Json)) (id : Nat)
    (shape : Shape) (stack : List Nat) : m (Converted Json) := do
  match shape with
  | .function => return (.ok .null, stack)
  | .array length =>
    let items := (List.range length).map fun index => ("", Key.ofNat index)
    let (result, after) ← convertMembers view convert id stack items
    return (result.map fun members => .array (members.map (·.2)), after)
  | .members =>
    match ← view.keys id with
    | .error thrown => return (.error thrown, stack)
    | .ok keys =>
      let (result, after) ← convertMembers view convert id stack (namedKeys keys)
      return (result.map Json.ofMembers, after)

/-- Converts a value with room for so many objects inside each other. -/
def convert (view : View m) : Nat → Value → List Nat → m (Converted Json)
  | room, .object id, stack => do
    match ← view.shape id with
    | .function => return (.ok .null, stack)
    | shape =>
      if stack.contains id then return (.error (.native cyclicOutput), stack)
      else match room with
        | 0 => return (.error (.native deepOutput), stack)
        | room + 1 =>
          let (result, after) ← convertContent view (convert view room) id shape (id :: stack)
          return (result, after.tail)
  | _, .bool value, stack => return (.ok (.bool value), stack)
  | _, .number value, stack => return (.ok (jsonOfDouble value), stack)
  | _, .text units, stack => return (.ok (.string (Text.ofUnits units)), stack)
  | _, _, stack => return (.ok .null, stack)

/-- A value as JSON. -/
def toJson (view : View m) (value : Value) : m (Except Thrown Json) := do
  return (← convert view maxDepth value []).1

end ServerRender.Script
