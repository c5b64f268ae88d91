import ServerRender.Script.Lookup
import ServerRender.Script.Numeral

/-!
# Conversion to primitives

What a script gets where it needs a string, a number or a property key. An object is
asked for a primitive by its methods, so conversion can run any code, and throw.
-/

namespace ServerRender.Script

namespace Run

/-- The first primitive that one of the methods gives. -/
def askMethods (object : Value) : List String → Run Value
  | [] => throwType "cannot convert object to primitive value"
  | name :: rest => do
    let method ← readName object name
    if ← isFunction method then
      match ← apply method object [] with
      | .object _ => askMethods object rest
      | primitive => return primitive
    else askMethods object rest

/-- The primitive of an object by its own methods, by preference a text or a number. -/
def ordinaryPrimitive (object : Value) (asText : Bool) : Run Value :=
  askMethods object (if asText then ["toString", "valueOf"] else ["valueOf", "toString"])

/-- The primitive of a value; the hint is `string`, `number` or `default`. -/
def primitive (hint : String) (value : Value) : Run Value := do
  match value with
  | .object _ =>
    match ← method? value (.standard "toPrimitive") with
    | none => ordinaryPrimitive value (hint == "string")
    | some exotic =>
      match ← apply exotic value [.ofString hint] with
      | .object _ => throwType "Symbol.toPrimitive cannot return an object"
      | primitive => return primitive
  | _ => return value

/-- The text of a value that is not an object. -/
def primitiveText (value : Value) : Run (List UInt16) := do
  match value with
  | .undefined => return Text.units "undefined"
  | .null => return Text.units "null"
  | .bool value => return Text.units (toString value)
  | .number value => return Text.units (textOfNumber value)
  | .bigint value => return Text.units (toString value)
  | .text units => return units
  | .symbol _ => throwType "can't convert symbol to string"
  | .object _ => throwType "cannot convert object to primitive value"

def textOf (value : Value) : Run (List UInt16) := do
  primitiveText (← primitive "string" value)

/-- The text of a value as characters. -/
def stringOf (value : Value) : Run String := do
  return Text.ofUnits (← textOf value)

/-- The number that a primitive stands for. -/
def primitiveNumber (value : Value) : Run Double := do
  match value with
  | .number value => return value
  | .bool value => return .ofNat (if value then 1 else 0)
  | .null => return .ofNat 0
  | .text units => return Lexeme.numberOfText (Text.ofUnits units)
  | .symbol _ => throwType "argument must not be a symbol"
  | .bigint _ => throwType "argument must not be a bigint"
  | _ => return .notANumber

def numberOf (value : Value) : Run Double := do
  primitiveNumber (← primitive "number" value)

/-- A number or a big integer. -/
def numericOf (value : Value) : Run Value := do
  match ← primitive "number" value with
  | .bigint n => return .bigint n
  | other => return .number (← primitiveNumber other)

def noBigint (content : String) : NativeError :=
  syntaxError ("cannot convert string '" ++ content ++ "' to bigint primitive")

def bigintOf (value : Value) : Run Int := do
  match ← primitive "number" value with
  | .bigint n => return n
  | .bool value => return if value then 1 else 0
  | .text units =>
    let content := Text.ofUnits units
    match Lexeme.bigintOfText? content with
    | some n => return n
    | none => throwNative (noBigint content)
  | .undefined => throwType "cannot convert undefined to a BigInt"
  | .null => throwType "cannot convert null to a BigInt"
  | .symbol _ => throwType "cannot convert Symbol to a BigInt"
  | _ => throwType "cannot convert Number to a BigInt"

/-- The key that a value stands for. -/
def keyOf (value : Value) : Run Key := do
  match ← primitive "string" value with
  | .symbol symbol => return .symbol symbol
  | .number x =>
    match x.toInt? with
    | some n =>
      if 0 ≤ n && n < UInt32.size then return .ofNat n.toNat else return .ofString (textOfNumber x)
    | none => return .ofString (textOfNumber x)
  | other => return .ofUnits (← primitiveText other)

/-- The value as an object; a primitive is wrapped. -/
def objectOf (value : Value) : Run Nat := do
  match value with
  | .object id => return id
  | .undefined => throwNative .notAnObject
  | .null => throwNative .notAnObject
  | .text units =>
    addPlace (.ofKind (.boxed value)
      (.ofEntries [(.name "length", .fixed (.ofNat units.length))]))
  | _ => addPlace (.ofKind (.boxed value) .empty)

/-! ## Whole numbers -/

/-- A whole number or an infinite one. -/
inductive Extended where
  | below
  | whole (n : Int)
  | above
  deriving DecidableEq, Inhabited

/-- A number without its fraction; zero for what is no number. -/
def wholeOf (value : Value) : Run Extended := do
  let x ← numberOf value
  if x.isNaN then return .whole 0
  else if x.isFinite then return .whole x.truncated
  else return if x.isNegative then .below else .above

/-- The whole number nearest to a value within bounds. -/
def clampOf (value : Value) (low high : Int) : Run Int := do
  match ← wholeOf value with
  | .below => return low
  | .above => return high
  | .whole n => return max low (min high n)

/-- A place in a list of so many items: a negative number counts from the end. -/
def placeIn (count : Nat) (value : Value) (default : Nat) : Run Nat := do
  match value with
  | .undefined => return default
  | _ =>
    match ← wholeOf value with
    | .below => return 0
    | .above => return count
    | .whole n => return if n < 0 then (count + n).toNat else min n.toNat count

/-- The largest whole number up to which all have a double. -/
def maxSafe : Nat := 9007199254740991

/-- A number of items. -/
def countOf (value : Value) : Run Nat := do
  return (← clampOf value 0 maxSafe).toNat

/-- The number of items that an object says it has. -/
def lengthOf (id : Nat) : Run Nat := do
  match (← heap).get? id with
  | some object =>
    if object.isArray then return object.length else countOf (← read id (.name "length"))
  | none => return 0

/-- A place that a value names, or an error. -/
def indexOf (value : Value) : Run Nat := do
  match ← wholeOf value with
  | .whole n =>
    if 0 ≤ n && n ≤ maxSafe then return n.toNat
    else throwRange "Integer must be between 0 and 2^53 - 1"
  | _ => throwRange "Integer must be between 0 and 2^53 - 1"

/-- The whole number of thirty-two bits that a number stands for. -/
def wordOf (x : Double) : Int :=
  if x.isFinite then (x.truncated).bmod (Nat.pow 2 32) else 0

/-- An item of an object by its number. -/
def readIndex (id index : Nat) : Run Value :=
  read id (.ofNat index)

/-- The items of an array or of an object like one. -/
def itemsOf (id : Nat) : Run (List Value) := do
  (List.range (← lengthOf id)).mapM (readIndex id)

end Run

end ServerRender.Script
