import ServerRender.Script.Fault
import ServerRender.Decimal.Double
import ServerRender.Text.Numeral
import ServerRender.Text.Units

/-!
# Values and keys

A value is a primitive or names an object by its place in the heap. Objects hold
properties under keys: array indices, names and symbols.
-/

namespace ServerRender.Script

/-- A symbol; the number tells it from others with the same description. The private
names of classes have the number zero, and no script gets hold of one. -/
structure Symbol where
  id : Nat
  description : Option (List UInt16)
  deriving DecidableEq, Hashable, Inhabited

namespace Symbol

/-- The names of the symbols of the language. -/
def standardNames : List String :=
  ["asyncIterator", "hasInstance", "isConcatSpreadable", "iterator", "match", "matchAll", "replace",
    "search", "species", "split", "toPrimitive", "toStringTag", "unscopables"]

/-- A symbol of the language. -/
def standard (name : String) : Symbol :=
  ⟨1 + standardNames.idxOf name, some (Text.units ("Symbol." ++ name))⟩

/-- A private name. -/
def hidden (name : String) : Symbol :=
  ⟨0, some (Text.units ("#" ++ name))⟩

/-- The symbol that a script makes after so many others. -/
def fresh (count : Nat) (description : Option (List UInt16)) : Symbol :=
  ⟨1 + standardNames.length + count, description⟩

/-- How a symbol is written. -/
def text (symbol : Symbol) : List UInt16 :=
  Text.units "Symbol(" ++ symbol.description.getD [] ++ Text.units ")"

end Symbol

inductive Value where
  | undefined
  | null
  | bool (value : Bool)
  | number (value : Double)
  | bigint (value : Int)
  | text (units : List UInt16)
  | symbol (symbol : Symbol)
  /-- The object at a place of the heap. -/
  | object (id : Nat)
  deriving DecidableEq, Inhabited

namespace Value

def ofNat (n : Nat) : Value :=
  number (.ofNat n)

def ofInt (n : Int) : Value :=
  number (.ofInt n)

def ofString (content : String) : Value :=
  text (Text.units content)

def notANumber : Value :=
  number .notANumber

def isNullish : Value → Bool
  | undefined => true
  | null => true
  | _ => false

def isObject : Value → Bool
  | object _ => true
  | _ => false

def objectId? : Value → Option Nat
  | object id => some id
  | _ => none

/-- Whether a value counts as true. -/
def isTruthy : Value → Bool
  | undefined => false
  | null => false
  | bool value => value
  | number value => !(value.isZero || value.isNaN)
  | bigint value => value != 0
  | text units => !units.isEmpty
  | symbol _ => true
  | object _ => true

/-- Equality without conversion, which does not tell the zeros apart. -/
def isIdentical : Value → Value → Bool
  | number x, number y => x.isSame y
  | x, y => x == y

/-- Equality by which something that is no number is equal to itself. -/
def isSameItem : Value → Value → Bool
  | number x, number y => x.isSame y || x.isNaN && y.isNaN
  | x, y => x == y

/-- Equality that also tells the zeros apart. -/
def isSameValue : Value → Value → Bool
  | number x, number y => x.isNaN && y.isNaN || x == y
  | x, y => x == y

end Value

/-- What ends a run. -/
inductive Thrown where
  /-- An error that the engine found. -/
  | native (error : NativeError)
  | value (value : Value)
  /-- A wait for something that no run brings about. -/
  | suspended
  /-- The end of a chain of members at undefined or null. -/
  | absent
  deriving DecidableEq, Inhabited

/-! ## Keys -/

inductive Key where
  | index (n : Nat)
  /-- The units of a name that spells no array index. -/
  | text (units : List UInt16)
  | symbol (symbol : Symbol)
  deriving DecidableEq, Hashable, Inhabited

/-- The array index that a name spells. -/
def arrayIndex? (name : String) : Option Nat := do
  let index ← Text.digits? name.toList
  if index < UInt32.size - 1 && toString index == name then some index else none

namespace Key

/-- A name that spells no array index. -/
def name (content : String) : Key :=
  text (Text.units content)

def ofString (content : String) : Key :=
  match arrayIndex? content with
  | some n => index n
  | none => name content

def ofUnits (units : List UInt16) : Key :=
  match arrayIndex? (Text.ofUnits units) with
  | some n => index n
  | none => text units

def ofNat (n : Nat) : Key :=
  if n < UInt32.size - 1 then index n else name (toString n)

/-- A symbol of the language. -/
def standard (name : String) : Key :=
  symbol (.standard name)

/-- Whether a key is a private name. -/
def isHidden : Key → Bool
  | symbol which => which.id == 0
  | _ => false

/-- The units of a key that is no symbol. -/
def units? : Key → Option (List UInt16)
  | index n => some (Text.units (toString n))
  | text units => some units
  | symbol _ => none

/-- The text of a key that is no symbol, with lone surrogates escaped. -/
def text? (key : Key) : Option String :=
  key.units?.map Text.ofUnits

/-- The value that stands for a key. -/
def value : Key → Value
  | index n => .ofString (toString n)
  | text units => .text units
  | symbol which => .symbol which

/-- The name of a function under a key. -/
def functionName : Key → List UInt16
  | index n => Text.units (toString n)
  | text units => units
  | symbol which =>
    match which.description with
    | some description =>
      if which.id = 0 then description else Text.units "[" ++ description ++ Text.units "]"
    | none => []

end Key

end ServerRender.Script
