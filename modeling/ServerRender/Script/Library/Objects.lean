import ServerRender.Script.Library.Basic
import ServerRender.Script.Scope

/-!
# Objects and functions

What every object inherits, how objects are looked over and locked, and how functions
are called and bound.
-/

namespace ServerRender.Script

namespace Run

/-! ## Objects -/

/-- The word for the kind of an object that its text names. -/
def kindWord (value : Value) : Run String := do
  match value with
  | .undefined => return "Undefined"
  | .null => return "Null"
  | _ =>
    if ← isArray value then return "Array"
    let heap ← heap
    let primitive := match heap.kind? value with
      | some (.boxed inner) => inner
      | _ => value
    match heap.kind? value, primitive with
    | some .arguments, _ => return "Arguments"
    | some (.error _), _ => return "Error"
    | some (.date _), _ => return "Date"
    | some (.regexp _ _), _ => return "RegExp"
    | _, .bool _ => return "Boolean"
    | _, .number _ => return "Number"
    | _, .text _ => return "String"
    | _, _ => return if heap.isFunction value then "Function" else "Object"

/-- The text of an object, which names what it is. -/
def objectText : Native := fun this _ => do
  let word ← kindWord this
  if this.isNullish then return .ofString ("[object " ++ word ++ "]")
  match ← readMember this (.standard "toStringTag") with
  | .text units => return .text (Text.units "[object " ++ units ++ Text.units "]")
  | _ => return .ofString ("[object " ++ word ++ "]")

/-- The keys of the properties of an object that listings show, which are no symbols. -/
def listedOwn (id : Nat) : Run (List Key) := do
  (← ownKeys id).filterM fun key => do
    if key.text?.isNone then return false
    return (((← ownProperty? id key).map Property.enumerable).getD false)

/-- The keys of an object that pass a test. -/
def keysWhere (p : Key → Bool) : Native := fun _ arguments => do
  let id ← objectOf (argument arguments 0)
  addArray (((← ownKeys id).filter p).map Key.value)

def objectKeys : Native := fun _ arguments => do
  addArray ((← listedOwn (← objectOf (argument arguments 0))).map Key.value)

def objectValues : Native := fun _ arguments => do
  let id ← objectOf (argument arguments 0)
  addArray (← (← listedOwn id).mapM (read id))

def objectEntries : Native := fun _ arguments => do
  let id ← objectOf (argument arguments 0)
  addArray (← (← listedOwn id).mapM fun key => do addArray [key.value, ← read id key])

/-- Makes an object like any other of its class, or gives the value as one. -/
def makeObject : Making := fun arguments target => do
  let isOwn := target == .object (constructorPlace "Object") || target = .undefined
  let first := argument arguments 0
  if !isOwn then return .object (← addFor target "Object" (.ofKind .plain .empty))
  else if first.isNullish then addPlain []
  else return .object (← objectOf first)

def assignObjects : Native := fun _ arguments => do
  let id ← objectOf (argument arguments 0)
  for source in arguments.drop 1 do
    if !source.isNullish then
      let origin ← objectOf source
      for key in ← ownKeys origin do
        if (((← ownProperty? origin key).map Property.enumerable).getD false) then
          write id key (← read origin key)
  return .object id

/-- Defines the properties that an object describes. -/
def defineAll (id : Nat) (descriptions : Value) : Run Unit := do
  let source ← objectOf descriptions
  let keys ← (← ownKeys source).filterM fun key => do
    return (((← ownProperty? source key).map Property.enumerable).getD false)
  let descriptors ← keys.mapM fun key => do return (key, ← descriptorOf (← read source key))
  for (key, descriptor) in descriptors do
    if !(← define id key descriptor) then throwType "cannot redefine property"

def createObject : Native := fun _ arguments => do
  let parent ← match argument arguments 0 with
    | .object id => pure (some id)
    | .null => pure none
    | other => do
      throwType ("Object prototype may only be an Object or null: " ++ (← stringOf other))
  let id ← addPlace ⟨.plain, .empty, parent, true⟩
  match argument arguments 1 with
  | .undefined => pure ()
  | descriptions => defineAll id descriptions
  return .object id

def defineOne : Native := fun _ arguments => do
  let .object id := argument arguments 0 | throwType "Object.defineProperty called on non-object"
  let key ← keyOf (argument arguments 1)
  if !(← define id key (← descriptorOf (argument arguments 2))) then
    throwType "cannot redefine property"
  return .object id

def defineSome : Native := fun _ arguments => do
  let .object id := argument arguments 0 | throwType "Expected an object"
  defineAll id (argument arguments 1)
  return .object id

def prototypeOfValue : Native := fun _ arguments => do
  return ((← parentOf (← objectOf (argument arguments 0))).map Value.object).getD .null

def changePrototype : Native := fun _ arguments => do
  if arguments.length < 2 then
    throwType ("Object.setPrototypeOf: At least 2 arguments required, but only "
      ++ toString arguments.length ++ " passed")
  let object := argument arguments 0
  if object.isNullish then throwNative .notAnObject
  let wanted ← match argument arguments 1 with
    | .object ancestor => pure (some ancestor)
    | .null => pure none
    | other => throwType ("expected an object or null, got \x60" ++ (← kindName other) ++ "\x60")
  if let .object id := object then
    if !(← inherit id wanted) then throwType "can't set prototype of this object"
  return object

def describeOwn : Native := fun _ arguments => do
  let id ← objectOf (argument arguments 0)
  match ← ownProperty? id (← keyOf (argument arguments 1)) with
  | some property => describe property
  | none => return .undefined

def describeAll : Native := fun _ arguments => do
  let id ← objectOf (argument arguments 0)
  let result ← addPlace (.ofKind .plain .empty)
  for key in ← ownKeys id do
    if let some property ← ownProperty? id key then
      discard (create result key (← describe property))
  return .object result

/-- Locks the properties of an object; `wholly` keeps also their values. -/
def lockObject (wholly : Bool) : Native := fun _ arguments => do
  let value := argument arguments 0
  let .object id := value | return value
  if !(← preventExtensions id) then throwType "cannot prevent extensions of this object"
  for key in ← ownKeys id do
    if let some property ← ownProperty? id key then
      let writable := if wholly && property.stored?.isSome then some false else none
      if !(← define id key ⟨none, none, none, writable, none, some false⟩) then
        throwType "cannot redefine property"
  return value

/-- Whether an object is locked. -/
def isLocked (wholly : Bool) : Native := fun _ arguments => do
  let .object id := argument arguments 0 | return .bool true
  if ← isExtensible id then return .bool false
  for key in ← ownKeys id do
    if let some property ← ownProperty? id key then
      if property.configurable || wholly && property.stored?.isSome && property.writable then
        return .bool false
  return .bool true

def closeObject : Native := fun _ arguments => do
  let value := argument arguments 0
  if let .object id := value then
    if !(← preventExtensions id) then throwType "cannot prevent extensions"
  return value

def isOpenObject : Native := fun _ arguments => do
  match argument arguments 0 with
  | .object id => return .bool (← isExtensible id)
  | _ => return .bool false

def objectFromEntries : Native := fun _ arguments => do
  let source := argument arguments 0
  if source.isNullish then throwNative .notAnObject
  let id ← addPlace (.ofKind .plain .empty)
  forEachItem source fun item => do
    let .object pair := item
      | throwType "cannot get key and value from primitive item of \x60iterable\x60"
    let key ← readIndex pair 0
    createOrThrow id (← keyOf key) (← readIndex pair 1)
  return .object id

/-- Puts an item into its group, the groups in the order in which they come up. -/
def putInGroup (same : α → Value → Bool) (label : α) (item : Value) :
    List (α × List Value) → (toValue : α → Value) → List (α × List Value)
  | [], _ => [(label, [item])]
  | (other, items) :: rest, toValue =>
    if same other (toValue label) then (other, items ++ [item]) :: rest
    else (other, items) :: putInGroup same label item rest toValue

/-- The items of a value in groups by what a function gives for each. -/
def groupItems (same : α → Value → Bool) (toValue : α → Value) (label : Value → Run α)
    (arguments : List Value) : Run (List (α × List Value)) := do
  let items := argument arguments 0
  let function := argument arguments 1
  if items.isNullish then throwNative .notAnObject
  requireFunction function "callback must be a function"
  let mut groups := []
  for (item, index) in (← listOf items).zipIdx do
    let key ← label (← apply function .undefined [item, .ofNat index])
    groups := putInGroup same key item groups toValue
  return groups

def groupToObject : Native := fun _ arguments => do
  let groups ← groupItems (fun key value => key.value == value) Key.value keyOf arguments
  let id ← addPlace ⟨.plain, .empty, none, true⟩
  for (key, items) in groups do
    discard (create id key (← addArray items))
  return .object id

def hasOwn : Native := fun _ arguments => do
  let id ← objectOf (argument arguments 0)
  return .bool (← ownProperty? id (← keyOf (argument arguments 1))).isSome

def hasOwnProperty : Native := fun this arguments => do
  let key ← keyOf (argument arguments 0)
  return .bool (← ownProperty? (← objectOf this) key).isSome

def isListed : Native := fun this arguments => do
  let key ← keyOf (argument arguments 0)
  return .bool (((← ownProperty? (← objectOf this) key).map Property.enumerable).getD false)

/-- Whether an object inherits from another. -/
def hasAncestor (ancestor : Nat) : Nat → Nat → Run Bool
  | 0, _ => return false
  | room + 1, id => do
    match ← parentOf id with
    | some parent => if parent = ancestor then return true else hasAncestor ancestor room parent
    | none => return false

def isPrototypeOf : Native := fun this arguments => do
  let .object id := argument arguments 0 | return .bool false
  return .bool (← hasAncestor (← objectOf this) (← chainRoom) id)

/-- Defines one half of an accessor. -/
def defineHalf (name : String) (isGetter : Bool) : Native := fun this arguments => do
  let id ← objectOf this
  let function := argument arguments 1
  requireFunction function ("Object.prototype." ++ name ++ ": Expecting function")
  let key ← keyOf (argument arguments 0)
  let descriptor : Descriptor :=
    ⟨none, if isGetter then some function else none, if isGetter then none else some function, none,
      some true, some true⟩
  if !(← define id key descriptor) then throwType "cannot redefine property"
  return .undefined

/-- One half of an accessor that an object has or inherits. -/
def lookUpHalf (isGetter : Bool) : Native := fun this arguments => do
  let id ← objectOf this
  let key ← keyOf (argument arguments 0)
  let rec search : Nat → Nat → Run Value
    | 0, _ => return .undefined
    | room + 1, id => do
      match ← ownProperty? id key, ← parentOf id with
      | some property, _ =>
        match property.slot with
        | .accessor getter setter => return if isGetter then getter else setter
        | .stored _ => return .undefined
      | none, some parent => search room parent
      | none, none => return .undefined
  search (← chainRoom) id

def readParent : Native := fun this _ => do
  return ((← parentOf (← objectOf this)).map Value.object).getD .null

def writeParent : Native := fun this arguments => do
  if this.isNullish then throwNative .notAnObject
  let wanted := match argument arguments 0 with
    | .object id => some (some id)
    | .null => some none
    | _ => none
  match this, wanted with
  | .object id, some parent =>
    if !(← inherit id parent) then throwType "__proto__ called on null or undefined"
  | _, _ => pure ()
  return .undefined

end Run

open Run in
def Class.object : Class where
  name := "Object"
  length := 1
  call := fun _ arguments => makeObject arguments .undefined
  making := some makeObject
  statics := [
    .method "keys" 1 objectKeys,
    .method "values" 1 objectValues,
    .method "entries" 1 objectEntries,
    .method "assign" 2 assignObjects,
    .method "create" 2 createObject,
    .method "seal" 1 (lockObject false),
    .method "isSealed" 1 (isLocked false),
    .method "freeze" 1 (lockObject true),
    .method "isFrozen" 1 (isLocked true),
    .method "preventExtensions" 1 closeObject,
    .method "isExtensible" 1 isOpenObject,
    .method "getPrototypeOf" 1 prototypeOfValue,
    .method "setPrototypeOf" 2 changePrototype,
    .method "getOwnPropertyDescriptors" 1 describeAll,
    .method "getOwnPropertyDescriptor" 2 describeOwn,
    .method "getOwnPropertyNames" 1 (keysWhere fun key => key.text?.isSome),
    .method "getOwnPropertySymbols" 1 (keysWhere fun key => key.text?.isNone),
    .method "defineProperty" 3 defineOne,
    .method "defineProperties" 2 defineSome,
    .method "fromEntries" 1 objectFromEntries,
    .method "groupBy" 2 groupToObject,
    .method "hasOwn" 2 hasOwn,
    .method "is" 2 (fun _ arguments =>
      return .bool ((argument arguments 0).isSameValue (argument arguments 1)))]
  methods := [
    .method "hasOwnProperty" 1 hasOwnProperty,
    .method "propertyIsEnumerable" 1 isListed,
    .method "toString" 0 objectText,
    .method "toLocaleString" 0 (fun this _ => invoke this (.name "toString") []),
    .method "valueOf" 0 (fun this _ => return .object (← objectOf this)),
    .method "isPrototypeOf" 1 isPrototypeOf,
    .method "__defineGetter__" 2 (defineHalf "__defineGetter__" true),
    .method "__defineSetter__" 2 (defineHalf "__defineSetter__" false),
    .method "__lookupGetter__" 1 (lookUpHalf true),
    .method "__lookupSetter__" 1 (lookUpHalf false),
    .accessor (.name "__proto__") readParent (some writeParent)]

/-! ## Functions -/

namespace Run

def notFunction (value : Value) : Run α := do
  let shown ← match value with
    | .object _ => pure "[object Object]"
    | .symbol symbol => pure (Text.ofUnits symbol.text)
    | .text units => pure ("\"" ++ Text.ofUnits units ++ "\"")
    | other => stringOf other
  throwType (shown ++ " is not a function")

def applyFunction : Native := fun this arguments => do
  if !(← isFunction this) then notFunction this
  let list := argument arguments 1
  apply this (argument arguments 0) (← if list.isNullish then pure [] else listLike list)

def callFunctionWith : Native := fun this arguments => do
  if !(← isFunction this) then notFunction this
  apply this (argument arguments 0) (arguments.drop 1)

/-- How many arguments a bound function still asks for. -/
def boundLength (function : Nat) (given : Nat) : Run Value := do
  if (← ownProperty? function (.name "length")).isNone then return .ofNat 0
  match ← read function (.name "length") with
  | .number x =>
    if x.isNaN then return .ofNat 0
    else if !x.isFinite then return if x.isNegative then .ofNat 0 else .number x
    else return .ofInt (max 0 (x.truncated - given))
  | _ => return .ofNat 0

def bindFunction : Native := fun this arguments => do
  match this with
  | .object id =>
    if !(← isFunction this) then
      throwType "cannot bind \x60this\x60 without a \x60[[Call]]\x60 internal method"
    let given := arguments.drop 1
    let length ← boundLength id given.length
    let name ← match ← read id (.name "name") with
      | .text units => pure units
      | _ => pure []
    let constructs := (← heap).constructs this
    let properties := Properties.ofEntries
      [(.name "length", .readOnly length),
        (.name "name", .readOnly (.text (Text.units "bound " ++ name)))]
    let kind := Kind.function (.bound id (argument arguments 0) given) constructs
    addObject ⟨kind, properties, ← parentOf id, true⟩
  | _ => throwType "cannot bind \x60this\x60 without a \x60[[Call]]\x60 internal method"

def functionText : Native := fun this _ => do
  if !(← isFunction this) then throwType "not a function"
  let name ← match ← readName this "name" with
    | .text units => pure units
    | _ => pure []
  return .text (Text.units "function " ++ name ++ Text.units "() \x7b [native code] \x7d")

/-- Makes a function from texts: its parameters and, as the last one, its body. -/
def makeFunction (arguments : List Value) : Run Value := do
  let texts ← arguments.mapM stringOf
  let parameters := ",".intercalate texts.dropLast
  let body := texts.getLast?.getD ""
  fun machine => machine.compile parameters body

def restricted : Native := fun _ _ =>
  throwType
    ("'caller', 'callee', and 'arguments' properties may not be accessed on strict mode functions "
    ++ "or the arguments objects for calls to them")

end Run

open Run in
def Class.function : Class where
  name := "Function"
  length := 1
  call := fun _ arguments => makeFunction arguments
  making := some fun arguments _ => makeFunction arguments
  statics := []
  methods := [
    .constant (.name "length") (.readOnly (.ofNat 0)),
    .constant (.name "name") (.readOnly (.text [])),
    .method "apply" 2 applyFunction,
    .method "bind" 1 bindFunction,
    .method "call" 1 callFunctionWith,
    .method "toString" 0 functionText,
    .keyed "hasInstance" "[Symbol.hasInstance]" 1 (fun this arguments =>
      return .bool (← isOrdinaryInstance (argument arguments 0) this)),
    .accessor (.name "caller") restricted (some restricted),
    .accessor (.name "arguments") restricted (some restricted)]

end ServerRender.Script
