import Std.Data.HashMap.Basic
import Std.Data.TreeMap.Basic
import ServerRender.Log
import ServerRender.Script.Expression
import ServerRender.Script.Value

/-!
# Objects and the heap

An object has a kind, properties and an object that it inherits from. Properties stand
in their order: array indices first, from the smallest up, then the others as they were
made. A property stores a value or has functions that give and take one.
-/

namespace ServerRender.Script

/-! ## Properties -/

inductive Slot where
  | stored (value : Value)
  /-- The functions that give and take the value; undefined where there is none. -/
  | accessor (getter setter : Value)
  deriving DecidableEq, Inhabited

structure Property where
  slot : Slot
  writable : Bool
  enumerable : Bool
  configurable : Bool
  deriving DecidableEq, Inhabited

namespace Property

/-- The property that an assignment makes. -/
def plain (value : Value) : Property :=
  ⟨.stored value, true, true, true⟩

/-- A property that listings leave out. -/
def unlisted (value : Value) : Property :=
  ⟨.stored value, true, false, true⟩

/-- A property that stays as it is. -/
def fixed (value : Value) : Property :=
  ⟨.stored value, false, false, false⟩

/-- A property that only a new definition changes. -/
def readOnly (value : Value) : Property :=
  ⟨.stored value, false, false, true⟩

/-- The value of a property without accessor. -/
def stored? (property : Property) : Option Value :=
  match property.slot with
  | .stored value => some value
  | .accessor _ _ => none

end Property

structure Properties where
  indexed : Std.TreeMap Nat Property
  /-- The others, each with its turn: the later it was made, the larger. -/
  named : Std.HashMap Key (Nat × Property)
  /-- The turn of the next one. -/
  turn : Nat

instance : Inhabited Properties := ⟨⟨∅, ∅, 0⟩⟩

namespace Properties

def empty : Properties :=
  ⟨∅, ∅, 0⟩

/-- Gives a key its property. A key that is there keeps its turn. -/
def set (properties : Properties) (key : Key) (property : Property) : Properties :=
  match key with
  | .index n => { properties with indexed := properties.indexed.insert n property }
  | _ =>
    match properties.named[key]? with
    | some (turn, _) => { properties with named := properties.named.insert key (turn, property) }
    | none =>
      { properties with
        named := properties.named.insert key (properties.turn, property)
        turn := properties.turn + 1 }

def get? (properties : Properties) (key : Key) : Option Property :=
  match key with
  | .index n => properties.indexed.get? n
  | _ => properties.named[key]?.map (·.2)

def erase (properties : Properties) (key : Key) : Properties :=
  match key with
  | .index n => { properties with indexed := properties.indexed.erase n }
  | _ => { properties with named := properties.named.erase key }

def isSymbol : Key → Bool
  | .symbol _ => true
  | _ => false

/-- The properties in order: indices, names and then symbols. Private ones are left
out. -/
def entries (properties : Properties) : List (Key × Property) :=
  let inTurn := (properties.named.toList.mergeSort fun one other => one.2.1 ≤ other.2.1).map
    fun (key, _, property) => (key, property)
  properties.indexed.toList.map (fun (n, property) => (Key.index n, property))
    ++ inTurn.filter (fun entry => !isSymbol entry.1)
    ++ inTurn.filter fun entry => isSymbol entry.1 && !entry.1.isHidden

def ofEntries (entries : List (Key × Property)) : Properties :=
  entries.foldl (fun properties entry => properties.set entry.1 entry.2) empty

/-- Properties as assignments make them. -/
def ofValues (entries : List (String × Value)) : Properties :=
  ofEntries (entries.map fun (name, value) => (Key.ofString name, .plain value))

end Properties

/-! ## Functions -/

/-- What a function does when it is called. -/
inductive Behaviour where
  /-- A function of the language: of which class or namespace, and its name there. -/
  | builtin (owner name : String)
  /-- Writes to the log. -/
  | log (level : Log.Level)
  /-- Runs statements with the variables of these places, the innermost first. -/
  | closure (procedure : Procedure) (environments : List Nat)
  /-- Makes an object with these members and runs statements; `derived` leaves the
  making to the constructor of the parent. -/
  | maker (procedure : Procedure) (environments : List Nat) (derived : Bool)
      (members : List (Role × Key × Expression))
  /-- Calls another function with `this` and first arguments that are settled. -/
  | bound (target : Nat) (this : Value) (arguments : List Value)
  | giver (value : Value)
  | thrower (value : Value)
  /-- Settles a promise. -/
  | settler (promise : Nat) (fulfils : Bool)
  /-- Closes a proxy. -/
  | revoker (proxy : Nat)
  deriving Inhabited

/-! ## Objects -/

/-- The numbers that a view on bytes holds. -/
inductive ItemKind where
  | int8
  | uint8
  | clamped
  | int16
  | uint16
  | int32
  | uint32
  | bigInt64
  | bigUint64
  | float32
  | float64
  deriving DecidableEq, Inhabited

inductive Settlement where
  | pending
  | fulfilled (value : Value)
  | rejected (value : Value)
  deriving Inhabited

/-- What an iterator gives of each entry. -/
inductive Aspect where
  | keys
  | values
  | entries
  deriving DecidableEq, Inhabited

/-- What an iterator has in front of it. -/
inductive Course where
  /-- Items of an array or of an object like one, from an index on. -/
  | items (object index : Nat) (aspect : Aspect)
  | mapEntries (map index : Nat) (aspect : Aspect)
  | setItems (set index : Nat) (aspect : Aspect)
  | characters (units : List UInt16)
  | matches (results : List Value)
  /-- A function that has not begun. -/
  | waiting (procedure : Procedure) (environments : List Nat)
  /-- What a function gave on its way, and how it ended. -/
  | given (values : List Value) (result : Except Thrown Value)
  | finished
  deriving Inhabited

inductive Kind where
  | plain
  | array
  | arguments
  /-- An error object of a class. -/
  | error (className : String)
  | function (behaviour : Behaviour) (constructs : Bool)
  | map (isWeak : Bool) (entries : Array (Option (Value × Value)))
  | set (isWeak : Bool) (items : Array (Option Value))
  | weakRef (target : Value)
  /-- A primitive as an object. -/
  | boxed (value : Value)
  /-- A time in milliseconds. -/
  | date (time : Double)
  | regexp (body flags : String)
  | bytes (isShared : Bool) (content : Array UInt8) (limit : Option Nat)
  | items (kind : ItemKind) (buffer offset count : Nat)
  | byteView (buffer offset count : Nat)
  /-- Stands for another object; a handler may have functions that answer for it. -/
  | proxy (target handler : Value)
  | promise (settlement : Settlement)
  | iterator (course : Course)
  deriving Inhabited

structure Object where
  kind : Kind
  properties : Properties
  /-- The object that it inherits from. -/
  parent : Option Nat
  /-- Whether it takes new properties. -/
  extensible : Bool
  deriving Inhabited

/-- The classes of error objects. -/
def errorClasses : List String :=
  ["Error", "TypeError", "RangeError", "SyntaxError", "ReferenceError", "EvalError", "URIError",
    "AggregateError"]

/-- The classes of typed arrays. -/
def itemClasses : List (String × ItemKind) :=
  [("Int8Array", .int8), ("Uint8Array", .uint8), ("Uint8ClampedArray", .clamped),
    ("Int16Array", .int16), ("Uint16Array", .uint16), ("Int32Array", .int32), ("Uint32Array", .uint32),
    ("BigInt64Array", .bigInt64), ("BigUint64Array", .bigUint64), ("Float32Array", .float32),
    ("Float64Array", .float64)]

namespace ItemKind

def className (kind : ItemKind) : String :=
  (((itemClasses.find? fun entry => entry.2 == kind)).map (·.1)).getD ""

/-- How many bytes an item takes. -/
def size : ItemKind → Nat
  | int8 => 1
  | uint8 => 1
  | clamped => 1
  | int16 => 2
  | uint16 => 2
  | int32 => 4
  | uint32 => 4
  | float32 => 4
  | _ => 8

end ItemKind

/-! ## Prototypes -/

/-- The prototypes at fixed places of the heap, by the names that messages and scripts
use for their classes. -/
def prototypeNames : List String :=
  ["Object", "Function", "Array", "String", "Number", "Boolean", "Symbol", "BigInt", "Date", "RegExp",
    "Map", "Set", "WeakMap", "WeakSet", "WeakRef", "Promise", "ArrayBuffer", "SharedArrayBuffer",
    "DataView", "Proxy", "TypedArray", "Iterator", "AsyncIterator", "Array Iterator", "Map Iterator",
    "Set Iterator", "String Iterator", "RegExp String Iterator", "GeneratorFunction", "AsyncFunction",
    "AsyncGeneratorFunction", "Generator", "AsyncGenerator"]
  ++ errorClasses ++ itemClasses.map (·.1)

/-- The place of a prototype. The global object is at place zero. -/
def prototypePlace (name : String) : Nat :=
  1 + prototypeNames.idxOf name

/-- The place of the constructor of a class, whose prototype has a fixed place. -/
def constructorPlace (name : String) : Nat :=
  prototypePlace name + prototypeNames.length

/-- The class of a primitive that has properties. -/
def Value.className? : Value → Option String
  | .bool _ => some "Boolean"
  | .number _ => some "Number"
  | .bigint _ => some "BigInt"
  | .text _ => some "String"
  | .symbol _ => some "Symbol"
  | _ => none

/-- The class whose prototype objects of a kind inherit from. -/
def Kind.className : Kind → String
  | plain => "Object"
  | arguments => "Object"
  | array => "Array"
  | error className => className
  | function _ _ => "Function"
  | map isWeak _ => if isWeak then "WeakMap" else "Map"
  | set isWeak _ => if isWeak then "WeakSet" else "Set"
  | weakRef _ => "WeakRef"
  | boxed value => value.className?.getD "Object"
  | date _ => "Date"
  | regexp _ _ => "RegExp"
  | bytes isShared _ _ => if isShared then "SharedArrayBuffer" else "ArrayBuffer"
  | items kind _ _ _ => kind.className
  | byteView _ _ _ => "DataView"
  | proxy _ _ => "Object"
  | promise _ => "Promise"
  | iterator course =>
    match course with
    | .items _ _ _ => "Array Iterator"
    | .mapEntries _ _ _ => "Map Iterator"
    | .setItems _ _ _ => "Set Iterator"
    | .characters _ => "String Iterator"
    | .matches _ => "RegExp String Iterator"
    | _ => "Generator"

namespace Object

/-- An object that inherits from the prototype of its class. -/
def ofKind (kind : Kind) (properties : Properties) : Object :=
  ⟨kind, properties, some (prototypePlace kind.className), true⟩

def lengthProperty (count : Nat) : Key × Property :=
  (.name "length", ⟨.stored (.ofNat count), true, false, false⟩)

/-- An array whose missing items are `none`. -/
def array (items : List (Option Value)) : Object :=
  let entries := items.zipIdx.filterMap fun (item, index) =>
    item.map fun value => (Key.index index, Property.plain value)
  ofKind .array (.ofEntries (lengthProperty items.length :: entries))

/-- An array of so many missing items. -/
def holes (count : Nat) : Object :=
  ofKind .array (.ofEntries [lengthProperty count])

def isFunction (object : Object) : Bool :=
  match object.kind with
  | .function _ _ => true
  | _ => false

def isArray (object : Object) : Bool :=
  match object.kind with
  | .array => true
  | _ => false

/-- The length of an array. -/
def length (object : Object) : Nat :=
  match (object.properties.get? (.name "length")).bind Property.stored? with
  | some (.number size) => (size.toInt?.getD 0).toNat
  | _ => 0

end Object

/-! ## The heap -/

structure Heap where
  objects : Array Object
  deriving Inhabited

namespace Heap

def get? (heap : Heap) (id : Nat) : Option Object :=
  heap.objects[id]?

/-- Adds an object; the number is its place. -/
def add (heap : Heap) (object : Object) : Nat × Heap :=
  (heap.objects.size, ⟨heap.objects.push object⟩)

def modify (heap : Heap) (id : Nat) (f : Object → Object) : Heap :=
  ⟨heap.objects.modify id f⟩

def setProperty (heap : Heap) (id : Nat) (key : Key) (property : Property) : Heap :=
  heap.modify id fun object => { object with properties := object.properties.set key property }

def kind? (heap : Heap) : Value → Option Kind
  | .object id => (heap.get? id).map Object.kind
  | _ => none

/-- What stands behind proxies. -/
def behindProxies (heap : Heap) : Nat → Value → Value
  | 0, value => value
  | fuel + 1, value =>
    match heap.kind? value with
    | some (.proxy target _) => behindProxies heap fuel target
    | _ => value

/-- Whether a value can be called. -/
def isFunction (heap : Heap) (value : Value) : Bool :=
  match heap.kind? (heap.behindProxies heap.objects.size value) with
  | some (.function _ _) => true
  | _ => false

/-- Whether a value can be used behind `new`. -/
def constructs (heap : Heap) (value : Value) : Bool :=
  match heap.kind? (heap.behindProxies heap.objects.size value) with
  | some (.function _ constructs) => constructs
  | _ => false

/-- A property that an object or one that it inherits from stores. A chain of parents is
not longer than the heap. -/
def storedFrom? (heap : Heap) (key : Key) : Nat → Nat → Option Property
  | 0, _ => none
  | fuel + 1, id => do
    let object ← heap.get? id
    match object.properties.get? key with
    | some property => some property
    | none => storedFrom? heap key fuel (← object.parent)

def stored? (heap : Heap) (id : Nat) (key : Key) : Option Property :=
  heap.storedFrom? key heap.objects.size id

/-- Whether an object is another or inherits from it. -/
def inheritsFrom (heap : Heap) (ancestor : Nat) : Nat → Nat → Bool
  | 0, _ => false
  | fuel + 1, id =>
    id == ancestor
      || (((heap.get? id).bind Object.parent).map (heap.inheritsFrom ancestor fuel)).getD false

/-- An error object for an error of the engine. -/
def addError (heap : Heap) (error : NativeError) : Nat × Heap :=
  heap.add (.ofKind (.error error.className)
    (.ofEntries [(.name "message", .unlisted (.ofString error.message))]))

end Heap

end ServerRender.Script
