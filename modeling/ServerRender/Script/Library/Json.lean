import ServerRender.Script.JsonText
import ServerRender.Script.Library.Basic

/-!
# JSON for scripts

Values of JSON texts, and JSON texts of values. A function can change what is read, and
a function or a list of keys what is written.
-/

namespace ServerRender.Script

namespace Run

/-! ## Reading -/

mutual

/-- The value of a tree. -/
def addTree : Json → Run Value
  | .null => return .null
  | .bool value => return .bool value
  | .number (.int value) => return .ofInt value
  | .number (.double value) => return .number value
  | .string value => return .ofString value
  | .array items => do addArray (← addTrees items)
  | .object members => do
    let id ← addPlace (.ofKind .plain .empty)
    addTreeMembers id members
    return .object id

def addTrees : List Json → Run (List Value)
  | [] => return []
  | item :: rest => do
    let first ← addTree item
    return first :: (← addTrees rest)

def addTreeMembers (id : Nat) : List (String × Json) → Run Unit
  | [] => return ()
  | (key, value) :: rest => do
    store id (.ofString key) (.plain (← addTree value))
    addTreeMembers id rest

end

/-- The keys that a revision of an object goes through. -/
def revisedKeys (id : Nat) : Run (List Key) := do
  if ← isArray (.object id) then return (List.range (← lengthOf id)).map Key.ofNat
  else
    (← ownKeys id).filterM fun key => do
      if key.text?.isNone then return false
      return (((← ownProperty? id key).map Property.enumerable).getD false)

/-- Hands a property and, before it, all that stands in it to a function. Values are not
deeper than so many. -/
def revise (function : Value) : Nat → Nat → Key → Run Value
  | 0, _, _ => throwNative .tooManyCalls
  | room + 1, holder, key => do
    let value ← read holder key
    if let .object id := value then
      for inner in ← revisedKeys id do
        match ← revise function room id inner with
        | .undefined => discard (delete id inner)
        | changed => discard (create id inner changed)
    apply function (.object holder) [key.value, value]

/-- How deep values are revised or written. -/
def maxTreeDepth : Nat := 500

def parseJson : Native := fun _ arguments => do
  let text ← stringOf (argument arguments 0)
  match JsonText.read text with
  | .error message => throwNative (syntaxError message)
  | .ok tree =>
    let value ← addTree tree
    let function := argument arguments 1
    if ← isFunction function then
      let holder ← addPlace (.ofKind .plain (.ofValues [("", value)]))
      revise function maxTreeDepth holder (.name "")
    else return value

/-! ## Writing -/

/-- How values are written. -/
structure TreeStyle where
  /-- A function that changes what is written. -/
  change : Value
  /-- The keys that are written, if not all. -/
  keys : Option (List Key)
  gap : List UInt16

def quoteUnit (unit : UInt16) (isLone : Bool) : List UInt16 :=
  if unit = 34 then [92, 34]
  else if unit = 92 then [92, 92]
  else if unit = 8 then Text.units "\\b"
  else if unit = 9 then Text.units "\\t"
  else if unit = 10 then Text.units "\\n"
  else if unit = 12 then Text.units "\\f"
  else if unit = 13 then Text.units "\\r"
  else if unit < 32 || isLone then
    let digits := Nat.toDigits 16 unit.toNat
    Text.units ("\\u" ++ String.ofList (List.replicate (4 - digits.length) '0' ++ digits))
  else [unit]

/-- A text between quotes; surrogates that stand alone are escaped. -/
def quoteText (text : List UInt16) : List UInt16 :=
  let rec go : List UInt16 → List UInt16
    | high :: low :: rest =>
      if Text.isHighSurrogate high && Text.isLowSurrogate low then high :: low :: go rest
      else quoteUnit high (Text.isHighSurrogate high || Text.isLowSurrogate high)
        ++ go (low :: rest)
    | [unit] => quoteUnit unit (Text.isHighSurrogate unit || Text.isLowSurrogate unit)
    | [] => []
  34 :: go text ++ [34]

/-- Parts between brackets, each on a line of its own if there is a gap. -/
def bracketed (start finish : UInt16) (gap indent : List UInt16) (parts : List (List UInt16)) :
    List UInt16 :=
  if parts.isEmpty then [start, finish]
  else if gap.isEmpty then start :: List.intercalate [44] parts ++ [finish]
  else
    let inner := indent ++ gap
    start :: 10 :: inner ++ List.intercalate ([44, 10] ++ inner) parts ++ [10] ++ indent ++ [finish]

/-- What is written for a value: a primitive of an object that holds one, and what its
own function or the style makes of it. -/
def writtenValue (style : TreeStyle) (holder : Nat) (key : Key) (value : Value) : Run Value := do
  let asks := match value with
    | .object _ => true
    | .bigint _ => true
    | _ => false
  let own ← if !asks then pure value
    else do
      let method ← readName value "toJSON"
      if ← isFunction method then apply method value [key.value] else pure value
  let changed ← if ← isFunction style.change then
    apply style.change (.object holder) [key.value, own]
    else pure own
  match ← kindOf? changed with
  | some (.boxed (.number _)) => return .number (← numberOf changed)
  | some (.boxed (.text _)) => return .text (← textOf changed)
  | some (.boxed inner) => return inner
  | _ => return changed

/-- The text of a property, if it has one. The objects around it stand in `outer`. -/
def writeTree (style : TreeStyle) :
    Nat → List Nat → List UInt16 → Nat → Key → Run (Option (List UInt16))
  | 0, _, _, _, _ => throwNative .tooManyCalls
  | room + 1, outer, indent, holder, key => do
    match ← writtenValue style holder key (← read holder key) with
    | .null => return some (Text.units "null")
    | .bool value => return some (Text.units (toString value))
    | .text units => return some (quoteText units)
    | .number x => return some (Text.units (if x.isFinite then textOfNumber x else "null"))
    | .bigint _ => throwType "cannot serialize bigint to JSON"
    | .object id =>
      if ← isFunction (.object id) then return none
      if outer.contains id then throwType "cyclic object value"
      let inner := indent ++ style.gap
      if ← isArray (.object id) then
        let parts ← (List.range (← lengthOf id)).mapM fun index => do
          return (← writeTree style room (id :: outer) inner id (.ofNat index)).getD
            (Text.units "null")
        return some (bracketed 91 93 style.gap indent parts)
      else
        let keys ← match style.keys with
          | some keys => pure keys
          | none => revisedKeys id
        let mut parts := []
        for key in keys do
          if let some text ← writeTree style room (id :: outer) inner id key then
            let colon := if style.gap.isEmpty then [58] else [58, 32]
            parts := (quoteText (key.units?.getD []) ++ colon ++ text) :: parts
        return some (bracketed 123 125 style.gap indent parts.reverse)
    | _ => return none

/-- The keys of a list that are written. -/
def listedKeysOf (id : Nat) : Run (List Key) := do
  let mut keys := []
  for item in ← itemsOf id do
    let isKey ← match item with
      | .text _ => pure true
      | .number _ => pure true
      | _ => do
        match ← kindOf? item with
        | some (.boxed (.text _)) => pure true
        | some (.boxed (.number _)) => pure true
        | _ => pure false
    if isKey then
      let key := Key.ofUnits (← textOf item)
      if !keys.contains key then keys := keys ++ [key]
  return keys

def gapOf (value : Value) : Run (List UInt16) := do
  let plain ← match ← kindOf? value with
    | some (.boxed (.number _)) => do pure (Value.number (← numberOf value))
    | some (.boxed (.text _)) => do pure (Value.text (← textOf value))
    | _ => pure value
  match plain with
  | .number x => return List.replicate (min 10 (← clampOf (.number x) 0 10)).toNat 32
  | .text units => return units.take 10
  | _ => return []

def stringifyJson : Native := fun _ arguments => do
  let replacer := argument arguments 1
  let keys ← match replacer with
    | .object id => do
      if !(← isFunction replacer) && (← isArray replacer) then pure (some (← listedKeysOf id))
      else pure none
    | _ => pure none
  let style : TreeStyle := ⟨replacer, keys, ← gapOf (argument arguments 2)⟩
  let holder ← addPlace (.ofKind .plain (.ofValues [("", argument arguments 0)]))
  return ((← writeTree style maxTreeDepth [] [] holder (.name "")).map Value.text).getD .undefined

end Run

open Run in
def Namespace.json : Namespace where
  name := "JSON"
  members := [
    .method "parse" 2 parseJson,
    .method "stringify" 3 stringifyJson,
    .tag "JSON"]

end ServerRender.Script
