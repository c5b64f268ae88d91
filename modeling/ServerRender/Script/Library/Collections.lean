import ServerRender.Script.Library.Objects

/-!
# Maps and sets

Maps and sets keep their entries in the order in which they came. A removed entry leaves
a gap, so that whoever runs over the entries keeps the place.
-/

namespace ServerRender.Script

namespace Run

/-- A key as it is kept: there is one zero. -/
def keptKey : Value → Value
  | .number x => if x.isZero then .ofNat 0 else .number x
  | value => value

/-- The function that puts an entry into a new collection. -/
def adderOf (collection : Value) (name : String) : Run Value := do
  let adder ← readName collection name
  if ← isFunction adder then return adder
  else throwType ("property \x60" ++ name ++ "\x60 of \x60NewTarget\x60 is not callable")

/-- Puts the pairs of a value into a new map. -/
def addPairs (map items : Value) : Run Unit := do
  if items.isNullish then return ()
  let adder ← adderOf map "set"
  forEachItem items fun item => do
    let .object pair := item
      | throwType "cannot get key and value from primitive item of \x60iterable\x60"
    let key ← readIndex pair 0
    let value ← readIndex pair 1
    discard (apply adder map [key, value])

/-- Puts the items of a value into a new set. -/
def addItems (set items : Value) : Run Unit := do
  if items.isNullish then return ()
  let adder ← adderOf set "add"
  forEachItem items fun item => discard (apply adder set [item])

/-! ## Maps -/

/-- The place of a map and its entries. -/
def mapThis (isWeak : Bool) (this : Value) : Run (Nat × Array (Option (Value × Value))) := do
  match this, ← kindOf? this with
  | .object id, some (.map weak entries) =>
    if weak == isWeak then return (id, entries) else wrongMap
  | _, _ => wrongMap
where
  wrongMap : Run (Nat × Array (Option (Value × Value))) :=
    if isWeak then throwType "WeakMap: called with non-object value"
    else throwType "'this' is not a Map"

def makeMap (isWeak : Bool) : Making := fun arguments target => do
  let map ← addKindFor target (.map isWeak #[])
  addPairs map (argument arguments 0)
  return map

def entryIndex? (entries : Array (Option (Value × Value))) (key : Value) : Option Nat :=
  entries.findIdx? fun entry => (entry.map fun (known, _) => known.isSameItem key).getD false

def getFromMap (isWeak : Bool) : Native := fun this arguments => do
  let (_, entries) ← mapThis isWeak this
  let found := (entryIndex? entries (argument arguments 0)).bind fun index => entries[index]?.join
  return (found.map (·.2)).getD .undefined

def hasInMap (isWeak : Bool) : Native := fun this arguments => do
  let (_, entries) ← mapThis isWeak this
  return .bool (entryIndex? entries (argument arguments 0)).isSome

/-- Refuses a key that is no object. -/
def requireObjectKey (name : String) (key : Value) : Run Unit := do
  if !key.isObject then
    throwType (name ++ ": expected target argument of type \x60object\x60, got target of type \x60"
      ++ (← kindName key) ++ "\x60")

def setInMap (isWeak : Bool) : Native := fun this arguments => do
  let (id, entries) ← mapThis isWeak this
  let key := keptKey (argument arguments 0)
  if isWeak then requireObjectKey "WeakMap.set" key
  let entry := some (key, argument arguments 1)
  let changed := match entryIndex? entries key with
    | some index => entries.setIfInBounds index entry
    | none => entries.push entry
  changeKind id (.map isWeak changed)
  return this

def deleteFromMap (isWeak : Bool) : Native := fun this arguments => do
  let (id, entries) ← mapThis isWeak this
  match entryIndex? entries (argument arguments 0) with
  | some index =>
    changeKind id (.map isWeak (entries.setIfInBounds index none))
    return .bool true
  | none => return .bool false

def clearMap : Native := fun this _ => do
  let (id, entries) ← mapThis false this
  changeKind id (.map false (entries.map fun _ => none))
  return .undefined

def forEachEntry : Native := fun this arguments => do
  let _ ← mapThis false this
  let function := argument arguments 0
  if !(← isFunction function) then notFunction function
  loop (fun index => do
    let (_, entries) ← mapThis false this
    match entries[index]? with
    | none => return .inr Value.undefined
    | some none => return .inl (index + 1)
    | some (some (key, value)) =>
      let _ ← apply function (argument arguments 1) [value, key, this]
      return .inl (index + 1)) 0

def sizeOfMap : Native := fun this _ => do
  let (_, entries) ← mapThis false this
  return .ofNat (entries.filter Option.isSome).size

def iterateMap (aspect : Aspect) : Native := fun this _ => do
  let (id, _) ← mapThis false this
  addKind (.iterator (.mapEntries id 0 aspect))

def groupToMap : Native := fun _ arguments => do
  let groups ← groupItems Value.isSameItem id (fun value => return keptKey value) arguments
  let entries ← groups.mapM fun (key, items) => do return some (key, ← addArray items)
  addKind (.map false entries.toArray)

/-! ## Sets -/

def setThis (isWeak : Bool) (this : Value) : Run (Nat × Array (Option Value)) := do
  match this, ← kindOf? this with
  | .object id, some (.set weak items) => if weak == isWeak then return (id, items) else wrongSet
  | _, _ => wrongSet
where
  wrongSet : Run (Nat × Array (Option Value)) :=
    if isWeak then throwType "WeakSet: called with non-object value"
    else throwType "'this' is not a Set"

def makeSet (isWeak : Bool) : Making := fun arguments target => do
  let set ← addKindFor target (.set isWeak #[])
  addItems set (argument arguments 0)
  return set

def itemIndex? (items : Array (Option Value)) (value : Value) : Option Nat :=
  items.findIdx? fun item => (item.map fun known => known.isSameItem value).getD false

def hasInSet (isWeak : Bool) : Native := fun this arguments => do
  let (_, items) ← setThis isWeak this
  return .bool (itemIndex? items (argument arguments 0)).isSome

def addToSet (isWeak : Bool) : Native := fun this arguments => do
  let (id, items) ← setThis isWeak this
  let value := keptKey (argument arguments 0)
  if isWeak then requireObjectKey "WeakSet.add" value
  if (itemIndex? items value).isNone then changeKind id (.set isWeak (items.push (some value)))
  return this

def deleteFromSet (isWeak : Bool) : Native := fun this arguments => do
  let (id, items) ← setThis isWeak this
  match itemIndex? items (argument arguments 0) with
  | some index =>
    changeKind id (.set isWeak (items.setIfInBounds index none))
    return .bool true
  | none => return .bool false

def clearSet : Native := fun this _ => do
  let (id, items) ← setThis false this
  changeKind id (.set false (items.map fun _ => none))
  return .undefined

def forEachMember : Native := fun this arguments => do
  let _ ← setThis false this
  let function := argument arguments 0
  if !(← isFunction function) then notFunction function
  loop (fun index => do
    let (_, items) ← setThis false this
    match items[index]? with
    | none => return .inr Value.undefined
    | some none => return .inl (index + 1)
    | some (some value) =>
      let _ ← apply function (argument arguments 1) [value, value, this]
      return .inl (index + 1)) 0

def sizeOfSet : Native := fun this _ => do
  let (_, items) ← setThis false this
  return .ofNat (items.filter Option.isSome).size

def iterateSet (aspect : Aspect) : Native := fun this _ => do
  let (id, _) ← setThis false this
  addKind (.iterator (.setItems id 0 aspect))

/-! ## Weak references -/

def makeWeakRef : Making := fun arguments target => do
  requireObjectKey "WeakRef" (argument arguments 0)
  addKindFor target (.weakRef (argument arguments 0))

def targetOfWeakRef : Native := fun this _ => do
  match ← kindOf? this with
  | some (.weakRef target) => return target
  | _ => throwType "WeakRef.prototype.deref: expected \x60this\x60 to be a \x60WeakRef\x60 object"

/-- A class of weak things cannot be called without `new`. -/
def refuseWeakCall (name : String) : Native := fun _ _ =>
  throwType (name ++ ": cannot call constructor without \x60new\x60")

end Run

open Run in
def Class.map : Class where
  name := "Map"
  length := 0
  call := refuseCall "Map"
  making := some (makeMap false)
  statics := [.method "groupBy" 2 groupToMap, .species]
  methods := [
    .method "entries" 0 (iterateMap .entries),
    .again (.standard "iterator") (.name "entries"),
    .tag "Map",
    .method "clear" 0 clearMap,
    .method "delete" 1 (deleteFromMap false),
    .method "forEach" 1 forEachEntry,
    .method "get" 1 (getFromMap false),
    .method "has" 1 (hasInMap false),
    .method "keys" 0 (iterateMap .keys),
    .method "set" 2 (setInMap false),
    .method "values" 0 (iterateMap .values),
    .getter "size" sizeOfMap]

open Run in
def Class.set : Class where
  name := "Set"
  length := 0
  call := refuseCall "Set"
  making := some (makeSet false)
  statics := [.species]
  methods := [
    .method "add" 1 (addToSet false),
    .method "clear" 0 clearSet,
    .method "delete" 1 (deleteFromSet false),
    .method "entries" 0 (iterateSet .entries),
    .method "forEach" 1 forEachMember,
    .method "has" 1 (hasInSet false),
    .method "values" 0 (iterateSet .values),
    .again (.name "keys") (.name "values"),
    .getter "size" sizeOfSet,
    .again (.standard "iterator") (.name "values"),
    .tag "Set"]

open Run in
def Class.weakMap : Class where
  name := "WeakMap"
  length := 0
  call := refuseWeakCall "WeakMap"
  making := some (makeMap true)
  statics := []
  methods := [
    .tag "WeakMap",
    .method "delete" 1 (deleteFromMap true),
    .method "get" 1 (getFromMap true),
    .method "has" 1 (hasInMap true),
    .method "set" 2 (setInMap true)]

open Run in
def Class.weakSet : Class where
  name := "WeakSet"
  length := 0
  call := refuseWeakCall "WeakSet"
  making := some (makeSet true)
  statics := []
  methods := [
    .tag "WeakSet",
    .method "add" 1 (addToSet true),
    .method "delete" 1 (deleteFromSet true),
    .method "has" 1 (hasInSet true)]

open Run in
def Class.weakRef : Class where
  name := "WeakRef"
  length := 1
  call := refuseWeakCall "WeakRef"
  making := some makeWeakRef
  statics := []
  methods := [.tag "WeakRef", .method "deref" 0 targetOfWeakRef]

end ServerRender.Script
