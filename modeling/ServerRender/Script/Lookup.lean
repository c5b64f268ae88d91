import ServerRender.Script.Bytes
import ServerRender.Script.Realm

/-!
# Reading properties

What an object has, of its own or by inheritance. Reading runs accessors and the
handlers of proxies, so it can do anything. Every step goes to a parent, to a handler
or to what a proxy stands for; the steps are limited by the size of the heap.
-/

namespace ServerRender.Script

/-- The index of an item that a key means to a string or a typed array. -/
def Key.itemIndex? : Key → Option Nat
  | .index n => some n
  | _ => none

/-- The property that an object has without asking a handler. -/
def Heap.ownProperty? (heap : Heap) (id : Nat) (key : Key) : Option Property := do
  let object ← heap.get? id
  match object.kind, key.itemIndex? with
  | .boxed (.text units), some index =>
    match units[index]? with
    | some unit => some ⟨.stored (.text [unit]), false, true, false⟩
    | none => object.properties.get? key
  | .items kind buffer offset count, some index =>
    (heap.item? kind buffer offset count index).map .plain
  | _, _ => object.properties.get? key

/-- The keys of the properties that an object has without asking a handler. -/
def Heap.keysOf (heap : Heap) (id : Nat) : List Key :=
  match heap.get? id with
  | none => []
  | some object =>
    let kept := object.properties.entries.map (·.1)
    match object.kind with
    | .boxed (.text units) => (List.range units.length).map Key.index ++ kept
    | .items _ _ _ count => (List.range count).map Key.index ++ kept
    | _ => kept

namespace Run

/-- More steps than a chain of objects has. -/
def chainRoom : Run Nat := do
  return 2 * (← heap).objects.size + 16

/-- The value of a property for a receiver. -/
def readProperty (receiver : Value) (property : Property) : Run Value := do
  match property.slot with
  | .stored value => return value
  | .accessor .undefined _ => return .undefined
  | .accessor getter _ => apply getter receiver []

/-- The function of a handler, if it has one. -/
def asMethod? (value : Value) : Run (Option Value) := do
  if value.isNullish then return none
  else if ← isFunction value then return some value
  else throwType "value returned for property of object is not a function"

def closedProxy : NativeError :=
  .typeError "Proxy object's handler has been revoked"

/-- The value of a property of an object or of one that it inherits from. -/
def readWithin : Nat → Nat → Key → Value → Run Value
  | 0, _, _, _ => return .undefined
  | room + 1, id, key, receiver => do
    let heap ← heap
    match heap.get? id with
    | none => return .undefined
    | some object =>
      match object.kind with
      | .proxy target handler =>
        match handler, target with
        | .object handlerId, .object targetId =>
          match ← asMethod? (← readWithin room handlerId (.name "get") handler) with
          | some trap => apply trap handler [target, key.value, receiver]
          | none => readWithin room targetId key receiver
        | _, _ => throwNative closedProxy
      | _ =>
        match heap.ownProperty? id key, object.parent with
        | some property, _ => readProperty receiver property
        | none, some parent => readWithin room parent key receiver
        | none, none => return .undefined

/-- The value of a property on behalf of a receiver; a missing one is undefined. -/
def readFrom (id : Nat) (key : Key) (receiver : Value) : Run Value := do
  readWithin (← chainRoom) id key receiver

def read (id : Nat) (key : Key) : Run Value :=
  readFrom id key (.object id)

/-- A property of any value. A primitive has those of its class, and a string its
length and its units. -/
def readMember (base : Value) (key : Key) : Run Value := do
  match base, key with
  | .object id, _ => read id key
  | .text units, .index n =>
    match units[n]? with
    | some unit => return .text [unit]
    | none => readFrom (prototypePlace "String") key base
  | .text units, _ =>
    if key = .name "length" then return .ofNat units.length
    else readFrom (prototypePlace "String") key base
  | _, _ =>
    match base.className? with
    | some className => readFrom (prototypePlace className) key base
    | none => throwNative .notAnObject

def readName (base : Value) (name : String) : Run Value :=
  readMember base (.ofString name)

/-- A property that is a function or missing. -/
def method? (base : Value) (key : Key) : Run (Option Value) := do
  asMethod? (← readMember base key)

/-- Calls a method. -/
def invoke (base : Value) (key : Key) (arguments : List Value) : Run Value := do
  apply (← readMember base key) base arguments

/-! ## Proxies -/

/-- A proxy whose handler has the function with this name, or else what the object
stands for. -/
inductive Answering where
  /-- The object itself. -/
  | plain (id : Nat)
  /-- The function of a handler, the handler and what the proxy stands for. -/
  | trap (function handler target : Value)

/-- Who answers for an object. -/
def answeringWithin (name : String) : Nat → Nat → Run Answering
  | 0, id => return .plain id
  | room + 1, id => do
    match (← heap).get? id |>.map Object.kind with
    | some (.proxy (.object target) handler) =>
      if handler.isNullish then throwNative closedProxy
      match ← method? handler (.name name) with
      | some function => return .trap function handler (.object target)
      | none => answeringWithin name room target
    | some (.proxy _ _) => throwNative closedProxy
    | _ => return .plain id

def answering (name : String) (id : Nat) : Run Answering := do
  answeringWithin name (← chainRoom) id

/-! ## Other questions -/

/-- What an object inherits from. -/
def parentOf (id : Nat) : Run (Option Nat) := do
  match ← answering "getPrototypeOf" id with
  | .plain id => return ((← heap).get? id).bind Object.parent
  | .trap function handler target => return (← apply function handler [target]).objectId?

/-- A property of a descriptor object as a property. -/
def ownDescribed (descriptor : Nat) : Run Property := do
  let flag (name : String) : Run Bool := do return (← read descriptor (.name name)).isTruthy
  let getter ← read descriptor (.name "get")
  let setter ← read descriptor (.name "set")
  let slot ← if getter != .undefined || setter != .undefined then pure (Slot.accessor getter setter)
    else do pure (Slot.stored (← read descriptor (.name "value")))
  return ⟨slot, ← flag "writable", ← flag "enumerable", ← flag "configurable"⟩

/-- The property of an object itself. -/
def ownProperty? (id : Nat) (key : Key) : Run (Option Property) := do
  match ← answering "getOwnPropertyDescriptor" id with
  | .plain id => return (← heap).ownProperty? id key
  | .trap function handler target =>
    match ← apply function handler [target, key.value] with
    | .object descriptor => return some (← ownDescribed descriptor)
    | .undefined => return none
    | _ => throwType "Proxy trap getOwnPropertyDescriptor is neither object nor undefined"

/-- Whether an object or one that it inherits from has a property. -/
def hasWithin : Nat → Nat → Key → Run Bool
  | 0, _, _ => return false
  | room + 1, id, key => do
    match ← answering "has" id with
    | .trap function handler target =>
      return (← apply function handler [target, key.value]).isTruthy
    | .plain id =>
      match (← heap).ownProperty? id key, ((← heap).get? id).bind Object.parent with
      | some _, _ => return true
      | none, some parent => hasWithin room parent key
      | none, none => return false

def hasProperty (id : Nat) (key : Key) : Run Bool := do
  hasWithin (← chainRoom) id key

/-- The number of items that a value says it has, if that is a number. -/
def plainLength (id : Nat) : Run Nat := do
  match ← read id (.name "length") with
  | .number size => return (size.toInt?.getD 0).toNat
  | _ => return 0

/-- The keys of the properties of an object itself, in order. -/
def ownKeys (id : Nat) : Run (List Key) := do
  match ← answering "ownKeys" id with
  | .plain id => return (← heap).keysOf id
  | .trap function handler target =>
    match ← apply function handler [target] with
    | .object list =>
      (List.range (← plainLength list)).mapM fun index => do
        match ← read list (.index index) with
        | .text units => return Key.ofUnits units
        | .symbol symbol => return Key.symbol symbol
        | _ => throwType "CreateListFromArrayLike: invalid property type"
    | _ => throwType "cannot create list from a primitive value"

def isExtensible (id : Nat) : Run Bool := do
  match ← answering "isExtensible" id with
  | .plain id => return (((← heap).get? id).map Object.extensible).getD false
  | .trap function handler target => return (← apply function handler [target]).isTruthy

/-- Whether a value is an array; a proxy is one if it stands for one. -/
def isArray (value : Value) : Run Bool := do
  let heap ← heap
  match heap.kind? (heap.behindProxies heap.objects.size value) with
  | some .array => return true
  | _ => return false

/-- The kind of a value in the words of the language. -/
def kindName (value : Value) : Run String := do
  match value with
  | .undefined => return "undefined"
  | .null => return "object"
  | .bool _ => return "boolean"
  | .number _ => return "number"
  | .bigint _ => return "bigint"
  | .text _ => return "string"
  | .symbol _ => return "symbol"
  | .object _ => return if ← isFunction value then "function" else "object"

end Run

end ServerRender.Script
