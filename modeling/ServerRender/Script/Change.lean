import ServerRender.Script.Coercion

/-!
# Changing properties

Definitions, assignments and deletions. What an object does not allow does not happen,
and the answer says so. The length of an array follows its items and they follow it.
-/

namespace ServerRender.Script

/-- What a definition says about a property. -/
structure Descriptor where
  value : Option Value
  getter : Option Value
  setter : Option Value
  writable : Option Bool
  enumerable : Option Bool
  configurable : Option Bool
  deriving Inhabited

namespace Descriptor

def ofValue (value : Value) : Descriptor :=
  ⟨some value, none, none, none, none, none⟩

/-- The definition of a property as a whole. -/
def ofProperty (property : Property) : Descriptor :=
  match property.slot with
  | .stored value =>
    ⟨some value, none, none, some property.writable, some property.enumerable,
      some property.configurable⟩
  | .accessor getter setter =>
    ⟨none, some getter, some setter, none, some property.enumerable, some property.configurable⟩

def isAccessor (descriptor : Descriptor) : Bool :=
  descriptor.getter.isSome || descriptor.setter.isSome

/-- What a definition makes of a property, or of none. -/
def complete (descriptor : Descriptor) (old : Option Property) : Property :=
  let enumerable := descriptor.enumerable.getD ((old.map Property.enumerable).getD false)
  let configurable := descriptor.configurable.getD ((old.map Property.configurable).getD false)
  match old.map Property.slot with
  | some (.accessor getter setter) =>
    if descriptor.value.isSome || descriptor.writable.isSome then
      ⟨.stored (descriptor.value.getD .undefined), descriptor.writable.getD false,
        enumerable, configurable⟩
    else
      ⟨.accessor (descriptor.getter.getD getter) (descriptor.setter.getD setter), false,
        enumerable, configurable⟩
  | slot =>
    if descriptor.isAccessor then
      ⟨.accessor (descriptor.getter.getD .undefined) (descriptor.setter.getD .undefined), false,
        enumerable, configurable⟩
    else
      let value := match slot with
        | some (.stored value) => value
        | _ => .undefined
      ⟨.stored (descriptor.value.getD value),
        descriptor.writable.getD ((old.map Property.writable).getD false), enumerable, configurable⟩

/-- Whether a property that stays as it is allows a definition. -/
def isAllowedBy (descriptor : Descriptor) (old : Property) : Bool :=
  old.configurable
  || (descriptor.configurable != some true
    && descriptor.enumerable.all (· == old.enumerable)
    && match old.slot with
      | .accessor getter setter =>
        descriptor.value.isNone && descriptor.writable.isNone
          && descriptor.getter.all (·.isSameValue getter)
            && descriptor.setter.all (·.isSameValue setter)
      | .stored value =>
        !descriptor.isAccessor
          && (old.writable || descriptor.writable != some true
            && descriptor.value.all (·.isSameValue value)))

end Descriptor

namespace Run

/-! ## Definitions -/

/-- Defines a property without regard to the kind of the object. -/
def defineOrdinary (id : Nat) (key : Key) (descriptor : Descriptor) : Run Bool := do
  let some object := (← heap).get? id | return false
  match object.properties.get? key with
  | none =>
    if !object.extensible then return false
    store id key (descriptor.complete none)
    return true
  | some old =>
    if !descriptor.isAllowedBy old then return false
    store id key (descriptor.complete (some old))
    return true

def badLength : NativeError :=
  .rangeError "invalid array length"

/-- Gives an array another length. Items beyond it go, down to the first that stays. -/
def cutArray (id count : Nat) : Run Unit := do
  changeObject id fun object =>
    let kept :=
      object.properties.indexed.filter fun n property => n < count || !property.configurable
    let least := match kept.maxKey? with
      | some n => max count (n + 1)
      | none => count
    let length := (object.properties.get? (.name "length")).getD (.fixed .undefined)
    let items := { object.properties with indexed := kept }
    { object with
      properties := items.set (.name "length") { length with slot := .stored (.ofNat least) } }

/-- Defines the length of an array. -/
def defineLength (id : Nat) (object : Object) (descriptor : Descriptor) : Run Bool := do
  match descriptor.value with
  | none => defineOrdinary id (.name "length") descriptor
  | some value =>
    let x ← numberOf value
    let some n := x.toInt? | throwNative badLength
    if n < 0 || (UInt32.size : Int) ≤ n then throwNative badLength
    let allowed ← defineOrdinary id (.name "length") { descriptor with value := some (.ofInt n) }
    if allowed && n.toNat < object.length then cutArray id n.toNat
    return allowed

/-- Defines an item of an array. -/
def defineItem (id index : Nat) (object : Object) (descriptor : Descriptor) : Run Bool := do
  let length := object.properties.get? (.name "length")
  let isBeyond := object.length ≤ index
  if isBeyond && !((length.map Property.writable).getD true) then return false
  if !(← defineOrdinary id (.index index) descriptor) then return false
  if isBeyond then
    store id (.name "length")
      { length.getD (.fixed .undefined) with slot := .stored (.ofNat (index + 1)) }
  return true

/-- The number that a typed array stores for a value. -/
def itemOf (kind : ItemKind) (value : Value) : Run Value := do
  if kind.holdsBigints then return .bigint (← bigintOf value) else return .number (← numberOf value)

/-- Stores an item of a typed array; one beyond its end is dropped. -/
def putItem (kind : ItemKind) (buffer offset count index : Nat) (value : Value) : Run Unit := do
  let item ← itemOf kind value
  if index < count then
    changeHeap fun heap => heap.putBytes buffer (offset + index * kind.size) (kind.encode item)

/-- Defines a property of an object that has no handler. -/
def definePlain (id : Nat) (key : Key) (descriptor : Descriptor) : Run Bool := do
  let some object := (← heap).get? id | return false
  match object.kind, key with
  | .array, .index index => defineItem id index object descriptor
  | .array, _ =>
    if key = .name "length" then defineLength id object descriptor
    else defineOrdinary id key descriptor
  | .boxed (.text units), .index index =>
    if index < units.length then return false else defineOrdinary id key descriptor
  | .items kind buffer offset count, .index index =>
    if count ≤ index || descriptor.isAccessor then return false
    if let some value := descriptor.value then putItem kind buffer offset count index value
    return true
  | _, _ => defineOrdinary id key descriptor

/-- A property as the object that describes it. -/
def describe (property : Property) : Run Value := do
  let flags :=
    [("enumerable", Value.bool property.enumerable), ("configurable", .bool property.configurable)]
  match property.slot with
  | .stored value => addPlain ([("value", value), ("writable", .bool property.writable)] ++ flags)
  | .accessor getter setter => addPlain ([("get", getter), ("set", setter)] ++ flags)

/-- A definition as the object that describes it. -/
def describePart (descriptor : Descriptor) : Run Value :=
  addPlain ((descriptor.value.map fun v => ("value", v)).toList
    ++ (descriptor.writable.map fun b => ("writable", .bool b)).toList
    ++ (descriptor.getter.map fun v => ("get", v)).toList
    ++ (descriptor.setter.map fun v => ("set", v)).toList
    ++ (descriptor.enumerable.map fun b => ("enumerable", .bool b)).toList
    ++ (descriptor.configurable.map fun b => ("configurable", .bool b)).toList)

/-- Defines a property; the answer says whether the object allows it. -/
def define (id : Nat) (key : Key) (descriptor : Descriptor) : Run Bool := do
  match ← answering "defineProperty" id with
  | .plain id => definePlain id key descriptor
  | .trap function handler target =>
    return (← apply function handler [target, key.value, ← describePart descriptor]).isTruthy

/-- Defines a property as an assignment makes it. -/
def create (id : Nat) (key : Key) (value : Value) : Run Bool :=
  define id key (.ofProperty (.plain value))

/-- Defines a property or throws. -/
def createOrThrow (id : Nat) (key : Key) (value : Value) : Run Unit := do
  if !(← create id key value) then throwType "cannot redefine property"

/-! ## Assignments -/

/-- Gives a property of a receiver a value that no accessor takes. -/
def assignTo (receiver : Value) (key : Key) (value : Value) : Run Bool := do
  let .object id := receiver | return false
  match ← ownProperty? id key with
  | some property =>
    match property.slot with
    | .accessor _ _ => return false
    | .stored _ => if property.writable then define id key (.ofValue value) else return false
  | none => create id key value

/-- Assigns a property of an object on behalf of a receiver; the answer says whether it
is allowed. -/
def writeWithin : Nat → Nat → Key → Value → Value → Run Bool
  | 0, _, _, _, _ => return false
  | room + 1, id, key, value, receiver => do
    match ← answering "set" id with
    | .trap function handler target =>
      return (← apply function handler [target, key.value, value, receiver]).isTruthy
    | .plain id =>
      let heap ← heap
      match (heap.get? id).map Object.kind, key with
      | some (.items kind buffer offset count), .index index =>
        putItem kind buffer offset count index value
        return true
      | _, _ =>
        match heap.ownProperty? id key with
        | some property =>
          match property.slot with
          | .stored _ => if property.writable then assignTo receiver key value else return false
          | .accessor _ .undefined => return false
          | .accessor _ setter =>
            let _ ← apply setter receiver [value]
            return true
        | none =>
          match (heap.get? id).bind Object.parent with
          | some parent => writeWithin room parent key value receiver
          | none => assignTo receiver key value

def writeTo (id : Nat) (key : Key) (value receiver : Value) : Run Bool := do
  writeWithin (← chainRoom) id key value receiver

/-- Assigns a member of a value; the answer says whether it is allowed. -/
def writeMember (base : Value) (key : Key) (value : Value) : Run Bool := do
  match base with
  | .object id => writeTo id key value base
  | _ =>
    match base.className? with
    | some className => writeTo (prototypePlace className) key value base
    | none => throwNative .notAnObject

/-- Assigns a property or throws. -/
def write (id : Nat) (key : Key) (value : Value) : Run Unit := do
  if !(← writeTo id key value (.object id)) then
    throwType ("cannot set non-writable property: " ++ (key.text?.getD ""))

def writeLength (id count : Nat) : Run Unit :=
  write id (.name "length") (.ofNat count)

/-! ## Deletions and the rest -/

/-- Deletes a property; the answer says whether it is gone. -/
def delete (id : Nat) (key : Key) : Run Bool := do
  match ← answering "deleteProperty" id with
  | .trap function handler target => return (← apply function handler [target, key.value]).isTruthy
  | .plain id =>
    match (← heap).ownProperty? id key with
    | none => return true
    | some property =>
      if !property.configurable then return false
      changeObject id fun object => { object with properties := object.properties.erase key }
      return true

def deleteOrThrow (id : Nat) (key : Key) : Run Unit := do
  if !(← delete id key) then throwType "cannot delete property"

/-- Changes what an object inherits from; a circle is not allowed. -/
def inherit (id : Nat) (parent : Option Nat) : Run Bool := do
  match ← answering "setPrototypeOf" id with
  | .trap function handler target =>
    return (← apply function handler [target, (parent.map Value.object).getD .null]).isTruthy
  | .plain id =>
    let heap ← heap
    let some object := heap.get? id | return false
    if object.parent = parent then return true
    if !object.extensible then return false
    if (parent.map (heap.inheritsFrom id heap.objects.size)).getD false then return false
    setParent id parent
    return true

def preventExtensions (id : Nat) : Run Bool := do
  match ← answering "preventExtensions" id with
  | .trap function handler target => return (← apply function handler [target]).isTruthy
  | .plain id =>
    changeObject id fun object => { object with extensible := false }
    return true

/-- What an object describes as the definition of a property. -/
def descriptorOf (value : Value) : Run Descriptor := do
  let .object id := value | throwType "Cannot construct a property descriptor from a non-object"
  let field (name : String) : Run (Option Value) := do
    if ← hasProperty id (.name name) then return some (← read id (.name name)) else return none
  let flag (name : String) : Run (Option Bool) := do
    return (← field name).map Value.isTruthy
  let enumerable ← flag "enumerable"
  let configurable ← flag "configurable"
  let content ← field "value"
  let writable ← flag "writable"
  let getter ← field "get"
  if let some function := getter then
    if function != .undefined && !(← isFunction function) then
      throwType "Property descriptor getter must be callable"
  let setter ← field "set"
  if let some function := setter then
    if function != .undefined && !(← isFunction function) then
      throwType "Property descriptor setter must be callable"
  if (getter.isSome || setter.isSome) && (content.isSome || writable.isSome) then
    throwType ("Invalid property descriptor. Cannot both specify accessors and a value or writable attribute")
  return ⟨content, getter, setter, writable, enumerable, configurable⟩

end Run

end ServerRender.Script
