import ServerRender.Script.Library.Arrays

/-!
# Buffers and views on them

Bytes, and the objects that read and write numbers in them: typed arrays, which have
items of one kind, and data views, which take any kind at any place.
-/

namespace ServerRender.Script

namespace Run

/-! ## Buffers -/

/-- The most bytes that a buffer can have. -/
def maxBytes : Nat := 268435456

def requireRoom (count : Nat) : Run Unit := do
  if maxBytes < count then throwRange "couldn't allocate the data block"

def addBuffer (target : Value) (isShared : Bool) (count : Nat) (limit : Option Nat) : Run Nat := do
  requireRoom count
  let kind := Kind.bytes isShared (Array.replicate count 0) limit
  addFor target kind.className (.ofKind kind .empty)

def makeBuffer (isShared : Bool) : Making := fun arguments target => do
  let count ← indexOf (argument arguments 0)
  let limit ← match argument arguments 1 with
    | .object options => do
      match ← read options (.name "maxByteLength") with
      | .undefined => pure none
      | value => do pure (some (← indexOf value))
    | _ => pure none
  if let some most := limit then
    if most < count then throwRange "\x60length\x60 cannot be bigger than \x60maxByteLength\x60"
  return .object (← addBuffer target isShared count limit)

/-- A buffer with its place, its bytes and how long it may become. -/
def bufferThis (isShared : Bool) (message : String) (this : Value) :
    Run (Nat × Array UInt8 × Option Nat) := do
  match this, ← kindOf? this with
  | .object id, some (.bytes shared content limit) =>
    if shared == isShared then return (id, content, limit) else throwType message
  | _, _ => throwType message

/-- What a getter of a buffer says about another value. -/
def bufferMessage (isShared : Bool) (name : String) : String :=
  if !isShared then "get ArrayBuffer.prototype." ++ name ++ " called with invalid \x60this\x60"
  else if name == "byteLength" then "SharedArrayBuffer.byteLength called with invalid value"
  else "get SharedArrayBuffer." ++ name ++ " called with invalid \x60this\x60"

def bufferPart (isShared : Bool) (name : String) (part : Array UInt8 → Option Nat → Value) :
    Native :=
  fun this _ => do
    let (_, content, limit) ← bufferThis isShared (bufferMessage isShared name) this
    return part content limit

def bufferClass (isShared : Bool) : String :=
  if isShared then "SharedArrayBuffer" else "ArrayBuffer"

def sliceBuffer (isShared : Bool) : Native := fun this arguments => do
  let (_, content, _) ← bufferThis isShared
    (bufferClass isShared ++ ".slice called with invalid \x60this\x60 value") this
  let start ← placeIn content.size (argument arguments 0) 0
  let finish ← placeIn content.size (argument arguments 1) content.size
  addKind (.bytes isShared (content.extract start (max start finish)) none)

/-- Gives a buffer another length. -/
def resizeBuffer (isShared : Bool) : Native := fun this arguments => do
  let name := bufferClass isShared ++ (if isShared then ".grow" else ".resize")
  let (id, content, limit) ← bufferThis isShared (name ++ " called with invalid \x60this\x60 value") this
  let some most := limit | throwType (name ++ ": cannot resize a fixed-length buffer")
  let count ← indexOf (argument arguments 0)
  if most < count || isShared && count < content.size then
    throwRange (name ++ ": new byte length exceeds buffer's max byte length")
  requireRoom count
  let changed := content.extract 0 count ++ Array.replicate (count - content.size) 0
  changeKind id (.bytes isShared changed limit)
  return .undefined

def isView : Native := fun _ arguments => do
  match ← kindOf? (argument arguments 0) with
  | some (.items _ _ _ _) => return .bool true
  | some (.byteView _ _ _) => return .bool true
  | _ => return .bool false

end Run

open Run in
def Class.buffer (isShared : Bool) : Class where
  name := bufferClass isShared
  length := 1
  call := fun _ _ =>
    throwType (bufferClass isShared ++ ".constructor called with undefined new target")
  making := some (makeBuffer isShared)
  statics := .species :: (if isShared then [] else [.method "isView" 1 isView])
  methods := [
    .getter "byteLength" (bufferPart isShared "byteLength" fun content _ => .ofNat content.size),
    .getter (if isShared then "growable" else "resizable")
      (bufferPart isShared (if isShared then "growable" else "resizable")
        fun _ limit => .bool limit.isSome),
    .getter "maxByteLength"
      (bufferPart isShared "maxByteLength" fun content limit => .ofNat (limit.getD content.size)),
    .method "slice" 2 (sliceBuffer isShared),
    .method (if isShared then "grow" else "resize") 1 (resizeBuffer isShared),
    .tag (bufferClass isShared)]

/-! ## Typed arrays -/

/-- A typed array. -/
structure ItemView where
  id : Nat
  kind : ItemKind
  buffer : Nat
  offset : Nat
  count : Nat

namespace Run

def itemView? (value : Value) : Run (Option ItemView) := do
  match value, ← kindOf? value with
  | .object id, some (.items kind buffer offset count) =>
    return some ⟨id, kind, buffer, offset, count⟩
  | _, _ => return none

def viewThis (this : Value) : Run ItemView := do
  match ← itemView? this with
  | some view => return view
  | none => throwType "\x60this\x60 is not a typed array object"

/-- Adds a typed array with a buffer of its own, all zeros. -/
def addItemView (target : Value) (kind : ItemKind) (count : Nat) : Run ItemView := do
  let buffer ← addBuffer .undefined false (count * kind.size) none
  let view := Kind.items kind buffer 0 count
  return ⟨← addFor target kind.className (.ofKind view .empty), kind, buffer, 0, count⟩

/-- Adds a typed array with items. -/
def addItemsOf (target : Value) (kind : ItemKind) (items : List Value) : Run Value := do
  let view ← addItemView target kind items.length
  for (item, index) in items.zipIdx do putItem kind view.buffer 0 view.count index item
  return .object view.id

/-- Adds a typed array that shows a part of a buffer. -/
def addView (target : Value) (kind : ItemKind) (buffer : Nat) (arguments : List Value) :
    Run Value := do
  let size := (← heap).bytes buffer |>.size
  let offset ← indexOf (argument arguments 1)
  if offset % kind.size != 0 then
    throwRange ("Invalid offset: must be a multiple of " ++ toString kind.size)
  let count ← match argument arguments 2 with
    | .undefined => do
      if size % kind.size != 0 then
        throwRange "Invalid length: must be a multiple of the element size"
      if size < offset then throwRange "Invalid offset: out of bounds"
      pure ((size - offset) / kind.size)
    | value => do
      let count ← indexOf value
      if size < offset + count * kind.size then throwRange "Invalid length: out of bounds"
      pure count
  return .object (← addFor target kind.className (.ofKind (.items kind buffer offset count) .empty))

def makeItems (kind : ItemKind) : Making := fun arguments target => do
  let first := argument arguments 0
  match first with
  | .object id =>
    match ← kindOf? first with
    | some (.bytes _ _ _) => addView target kind id arguments
    | some (.items other _ _ _) =>
      if other.holdsBigints != kind.holdsBigints then
        throwType "Cannot initialize typed array from different content type"
      addItemsOf target kind (← itemsOf id)
    | _ =>
      match ← method? first (.standard "iterator") with
      | some method => addItemsOf target kind (← restOf (← cursorBy method first))
      | none => addItemsOf target kind (← itemsOf id)
  | _ => return .object (← addItemView target kind (← indexOf first)).id

/-- A method of arrays on a typed array. -/
def onView (code : Native) : Native := fun this arguments => do
  let _ ← viewThis this
  code this arguments

/-- A method that gives the items of another array as a typed array of the same kind. -/
def likeView (code : ItemView → List Value → List Value → Run (List Value)) : Native :=
  fun this arguments => do
  let view ← viewThis this
  addItemsOf .undefined view.kind (← code view (← itemsOf view.id) arguments)

def viewPart (part : ItemView → Value) : Native := fun this _ => do
  return part (← viewThis this)

/-- Calls a function with every item, its index and the array. -/
def callOnItems (view : ItemView) (items arguments : List Value) (name : String) :
    Run (List Value) := do
  let function := argument arguments 0
  requireFunction function
    ("TypedArray.prototype." ++ name ++ " called with non-callable callback function")
  items.zipIdx.mapM fun (item, index) =>
    apply function (argument arguments 1) [item, .ofNat index, .object view.id]

def mapView : Native :=
  likeView fun view items arguments => callOnItems view items arguments "map"

def filterView : Native :=
  likeView fun view items arguments => do
    let answers ← callOnItems view items arguments "filter"
    return ((items.zip answers).filter fun entry => entry.2.isTruthy).map (·.1)

def sliceView : Native :=
  likeView fun view items arguments => do
    let start ← placeIn view.count (argument arguments 0) 0
    let finish ← placeIn view.count (argument arguments 1) view.count
    return (items.take finish).drop start

/-- Numbers in order, or values in the order of a function. -/
def sortNumbers (function : Value) (items : List Value) : Run (List Value) := do
  requireOrder function
  if function != .undefined then sortValues function items
  else
    let isAfter (x y : Value) : Run Bool := do
      match x, y with
      | .number x, .number y =>
        return !y.isNaN
          && (x.isNaN || y.isBelow x || (x.isZero && y.isZero && !x.isNegative && y.isNegative))
      | .bigint m, .bigint n => return n < m
      | _, _ => return false
    mergeSort isAfter (items.length + 1) items

def sortView : Native := fun this arguments => do
  let view ← viewThis this
  let sorted ← sortNumbers (argument arguments 0) (← itemsOf view.id)
  for (item, index) in sorted.zipIdx do write view.id (.ofNat index) item
  return this

def fillView : Native := fun this arguments => do
  let view ← viewThis this
  let item ← itemOf view.kind (argument arguments 0)
  fillItems this (item :: arguments.drop 1)

def withView : Native := fun this arguments => do
  let view ← viewThis this
  let place ← match ← wholeOf (argument arguments 0) with
    | .whole n => pure (if n < 0 then (view.count : Int) + n else n)
    | _ => pure (-1)
  let item ← itemOf view.kind (argument arguments 1)
  if place < 0 || (view.count : Int) ≤ place then throwRange "invalid integer index"
  addItemsOf .undefined view.kind ((← itemsOf view.id).set place.toNat item)

/-- Copies the items of an array into a typed array, from a place on. -/
def setView : Native := fun this arguments => do
  let view ← viewThis this
  let offset ← match ← wholeOf (argument arguments 1) with
    | .whole n =>
      if n < 0 then throwRange "TypedArray.set called with negative offset" else pure n.toNat
    | .below => throwRange "TypedArray.set called with negative offset"
    | .above => pure maxSafe
  let items ← itemsOf (← objectOf (argument arguments 0))
  if view.count < offset + items.length then
    throwRange "TypedArray.set called with out of bounds array"
  for (item, index) in items.zipIdx offset do
    putItem view.kind view.buffer view.offset view.count index item
  return .undefined

def partOfView : Native := fun this arguments => do
  let view ← viewThis this
  let start ← placeIn view.count (argument arguments 0) 0
  let finish ← placeIn view.count (argument arguments 1) view.count
  addKind (.items view.kind view.buffer (view.offset + start * view.kind.size) (finish - start))

/-- A typed array of the class that a function is called on. -/
def collectItems (this : Value) (items : List Value) : Run Value := do
  if !(← heap).constructs this then
    throwType "TypedArray.from called on non-constructable value"
  let result ← construct this [.ofNat items.length] this
  let view ← viewThis result
  for (item, index) in items.zipIdx do write view.id (.ofNat index) item
  return result

def viewFrom : Native := fun this arguments => do
  let source := argument arguments 0
  let function := argument arguments 1
  if function != .undefined then
    requireFunction function "TypedArray.from called with non-callable mapfn"
  let items ← match ← method? source (.standard "iterator") with
    | some method => do restOf (← cursorBy method source)
    | none => do itemsOf (← objectOf source)
  let converted ← if function = .undefined then pure items
    else items.zipIdx.mapM fun (item, index) =>
      apply function (argument arguments 2) [item, .ofNat index]
  collectItems this converted

def viewTag : Native := fun this _ => do
  match ← itemView? this with
  | some view => return .ofString view.kind.className
  | none => return .undefined

end Run

open Run in
/-- What all typed arrays share. -/
def Class.typedArray : Class where
  name := "TypedArray"
  length := 0
  call := fun _ _ => throwType "the TypedArray constructor should never be called directly"
  making := some fun _ _ => throwType "the TypedArray constructor should never be called directly"
  statics := [.species, .method "from" 1 viewFrom, .method "of" 0 collectItems]
  methods := [
    .method "values" 0 (onView (iterateItems .values)),
    .again (.standard "iterator") (.name "values"),
    .getter "buffer" (viewPart fun view => .object view.buffer),
    .getter "byteLength" (viewPart fun view => .ofNat (view.count * view.kind.size)),
    .getter "byteOffset" (viewPart fun view => .ofNat view.offset),
    .getter "length" (viewPart fun view => .ofNat view.count),
    .accessor (.standard "toStringTag") viewTag none,
    .method "at" 1 (onView itemAt),
    .method "copyWithin" 2 (onView copyItemsWithin),
    .method "entries" 0 (onView (iterateItems .entries)),
    .method "every" 1 (onView (anyItem "every" false)),
    .method "fill" 1 fillView,
    .method "filter" 1 filterView,
    .method "find" 1 (onView (findItem "find" false false)),
    .method "findIndex" 1 (onView (findItem "findIndex" false true)),
    .method "findLast" 1 (onView (findItem "findLast" true false)),
    .method "findLastIndex" 1 (onView (findItem "findLastIndex" true true)),
    .method "forEach" 1 (onView forEach),
    .method "includes" 1 (onView includesItem),
    .method "indexOf" 1 (onView indexOfItem),
    .method "join" 1 (onView joinItems),
    .method "keys" 0 (onView (iterateItems .keys)),
    .method "lastIndexOf" 1 (onView lastIndexOfItem),
    .method "map" 1 mapView,
    .method "reduce" 1 (onView (reduceItems "reduce" false)),
    .method "reduceRight" 1 (onView (reduceItems "reduceRight" true)),
    .method "reverse" 0 (onView reverseItems),
    .method "toReversed" 0 (likeView fun _ items _ => return items.reverse),
    .method "set" 1 setView,
    .method "slice" 2 sliceView,
    .method "some" 1 (onView (anyItem "some" true)),
    .method "sort" 1 sortView,
    .method "toSorted" 1
      (likeView fun _ items arguments => sortNumbers (argument arguments 0) items),
    .method "subarray" 2 partOfView,
    .method "toLocaleString" 0 (onView arrayLocalText),
    .method "toString" 0 arrayText,
    .method "with" 2 withView]

open Run in
/-- The class of the typed arrays of a kind. -/
def Class.items (kind : ItemKind) : Class where
  name := kind.className
  length := 3
  call := fun _ _ => throwType ("new target was undefined when constructing an " ++ kind.className)
  making := some (makeItems kind)
  statics := [.fixed "BYTES_PER_ELEMENT" (.ofNat kind.size)]
  methods := [.fixed "BYTES_PER_ELEMENT" (.ofNat kind.size)]

/-! ## Data views -/

namespace Run

def dataThis (this : Value) : Run (Nat × Nat × Nat) := do
  match ← kindOf? this with
  | some (.byteView buffer offset count) => return (buffer, offset, count)
  | _ => throwType "\x60this\x60 is not a DataView"

def makeDataView : Making := fun arguments target => do
  let first := argument arguments 0
  let .object buffer := first | throwType "buffer must be an ArrayBuffer"
  let some (.bytes _ content _) ← kindOf? first | throwType "buffer must be an ArrayBuffer"
  let offset ← indexOf (argument arguments 1)
  if content.size < offset then throwRange "Start offset is outside the bounds of the buffer"
  let count ← match argument arguments 2 with
    | .undefined => pure (content.size - offset)
    | value => do
      let count ← indexOf value
      if content.size < offset + count then throwRange "Invalid data view length"
      pure count
  addKindFor target (.byteView buffer offset count)

/-- The bytes of an item in the order of a data view: that of most weight first, if not
asked otherwise. -/
def inOrder (littleEndian : Value) (bytes : List UInt8) : List UInt8 :=
  if littleEndian.isTruthy then bytes else bytes.reverse

def getData (kind : ItemKind) : Native := fun this arguments => do
  let (buffer, offset, count) ← dataThis this
  let place ← indexOf (argument arguments 0)
  if count < place + kind.size then throwRange "Offset is outside the bounds of the DataView"
  let start := offset + place
  let bytes := (((← heap).bytes buffer).extract start (start + kind.size)).toList
  return kind.decode (inOrder (argument arguments 1) bytes)

def setData (kind : ItemKind) : Native := fun this arguments => do
  let (buffer, offset, count) ← dataThis this
  let place ← indexOf (argument arguments 0)
  let item ← itemOf kind (argument arguments 1)
  if count < place + kind.size then throwRange "Offset is outside the bounds of DataView"
  let bytes := inOrder (argument arguments 2) (kind.encode item)
  changeHeap fun heap => heap.putBytes buffer (offset + place) bytes
  return .undefined

/-- The kinds of items that data views read, by their names there. -/
def dataKinds : List (String × ItemKind) :=
  (itemClasses.filter fun entry => entry.2 != .clamped).map fun (name, kind) =>
    ((name.dropEnd 5).toString, kind)

end Run

open Run in
def Class.dataView : Class where
  name := "DataView"
  length := 1
  call := fun _ _ => throwType "cannot call \x60DataView\x60 constructor without \x60new\x60"
  making := some makeDataView
  statics := []
  methods :=
    [.getter "buffer" (fun this _ => do return .object (← dataThis this).1),
      .getter "byteLength" (fun this _ => do return .ofNat (← dataThis this).2.2),
      .getter "byteOffset" (fun this _ => do return .ofNat (← dataThis this).2.1),
      .tag "DataView"]
    ++ dataKinds.flatMap fun (name, kind) =>
      [.method ("get" ++ name) 1 (getData kind), .method ("set" ++ name) 2 (setData kind)]

/-! ## Operations that cannot be interrupted -/

namespace Run

/-- The typed array that an operation works on and the place of an item. -/
def atomicPlace (arguments : List Value) : Run (ItemView × Nat) := do
  let some view ← itemView? (argument arguments 0)
    | throwType "typed array must be an integer typed array"
  if view.kind = .float32 || view.kind = .float64 || view.kind = .clamped then
    throwType "platform does not support atomic operations on this type"
  let index ← indexOf (argument arguments 1)
  if view.count ≤ index then throwRange "index for typed array outside of bounds"
  return (view, index)

/-- Replaces an item; the value is the old one. -/
def exchangeItem (f : Value → Value → Run Value) : Native := fun _ arguments => do
  let (view, index) ← atomicPlace arguments
  let operand ← itemOf view.kind (argument arguments 2)
  let old ← readIndex view.id index
  putItem view.kind view.buffer view.offset view.count index (← f old operand)
  return old

def loadItem : Native := fun _ arguments => do
  let (view, index) ← atomicPlace arguments
  readIndex view.id index

def storeItem : Native := fun _ arguments => do
  let (view, index) ← atomicPlace arguments
  let value ← match ← itemOf view.kind (argument arguments 2) with
    | .number x =>
      pure (Value.number
        (if x.isFinite then .ofInt x.truncated else if x.isNaN then .ofNat 0 else x))
    | other => pure other
  putItem view.kind view.buffer view.offset view.count index value
  return value

def compareExchange : Native := fun _ arguments => do
  let (view, index) ← atomicPlace arguments
  let expected ← itemOf view.kind (argument arguments 2)
  let replacement ← itemOf view.kind (argument arguments 3)
  let old ← readIndex view.id index
  if view.kind.decode (view.kind.encode expected) = old then
    putItem view.kind view.buffer view.offset view.count index replacement
  return old

def isLockFree : Native := fun _ arguments => do
  match ← wholeOf (argument arguments 0) with
  | .whole n => return .bool ([1, 2, 4, 8].contains n)
  | _ => return .bool false

end Run

open Run in
def Namespace.atomics : Namespace where
  name := "Atomics"
  members := [
    .tag "Atomics",
    .method "add" 3 (exchangeItem (operate .add)),
    .method "and" 3 (exchangeItem (operate .bitAnd)),
    .method "compareExchange" 4 compareExchange,
    .method "exchange" 3 (exchangeItem fun _ value => return value),
    .method "isLockFree" 1 isLockFree,
    .method "load" 2 loadItem,
    .method "or" 3 (exchangeItem (operate .bitOr)),
    .method "store" 3 storeItem,
    .method "sub" 3 (exchangeItem (operate .subtract)),
    .method "wait" 4 (fun _ _ => throwType "cannot suspend agent"),
    .method "notify" 3 (fun _ arguments => do
      let _ ← atomicPlace arguments
      return .ofNat 0),
    .method "xor" 3 (exchangeItem (operate .bitXor))]

end ServerRender.Script
