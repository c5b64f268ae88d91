import ServerRender.Script.Library.Objects

/-!
# Arrays

The methods of arrays, which work on any object with a length and items by index. An
item that is missing is not the same as one that is undefined: most methods pass over
it.
-/

namespace ServerRender.Script

namespace Run

/-! ## Making arrays -/

/-- An array for the results of a method: of the class of the array that it is called
on. -/
def addAlike (id count : Nat) : Run Nat := do
  let plain : Run Nat := do
    if UInt32.size ≤ count then throwNative badLength else addPlace (.holes count)
  if !(← isArray (.object id)) then plain
  else
    let constructor ← read id (.name "constructor")
    let wanted ← match constructor with
      | .object other => do
        let species ← read other (.standard "species")
        pure (if species = .null then .undefined else species)
      | other => pure other
    if wanted = .undefined || wanted = .object (constructorPlace "Array") then plain
    else if (← heap).constructs wanted then objectOf (← construct wanted [.ofNat count] wanted)
    else throwType "Symbol.species must be a constructor"

/-- Makes an array of so many missing items, or of the arguments. -/
def makeArray : Making := fun arguments target => do
  match arguments with
  | [.number size] =>
    match size.toInt? with
    | some count =>
      if 0 ≤ count && count < UInt32.size then
        return .object (← addFor target "Array" (.holes count.toNat))
      else throwNative badLength
    | none => throwNative badLength
  | _ => return .object (← addFor target "Array" (.array (arguments.map some)))

/-- An object for items that a function puts together: by `this`, if it makes objects. -/
def addCollector (this : Value) (arguments : List Value) : Run Nat := do
  if (← heap).constructs this then objectOf (← construct this arguments this)
  else match arguments with
    | [.number size] => addPlace (.holes (size.truncated).toNat)
    | _ => addPlace (.array [])

def arrayOf : Native := fun this arguments => do
  let id ← addCollector this [.ofNat arguments.length]
  for (item, index) in arguments.zipIdx do createOrThrow id (.ofNat index) item
  writeLength id arguments.length
  return .object id

def arrayFrom : Native := fun this arguments => do
  let items := argument arguments 0
  let function := argument arguments 1
  if function != .undefined && !(← isFunction function) then
    throwType ("\x60" ++ (← kindName function) ++ "\x60 is not a function")
  let convert (item : Value) (index : Nat) : Run Value :=
    if function = .undefined then return item
    else apply function (argument arguments 2) [item, .ofNat index]
  match ← method? items (.standard "iterator") with
  | some method =>
    let id ← addCollector this []
    let cursor ← cursorBy method items
    let count ← searchFrom cursor (fun index item => do
      createOrThrow id (.ofNat index) (← convert item index)
      return .inl (index + 1)) (fun count => count) 0
    writeLength id count
    return .object id
  | none =>
    let source ← objectOf items
    let count ← lengthOf source
    let id ← addCollector this [.ofNat count]
    for index in List.range count do
      createOrThrow id (.ofNat index) (← convert (← readIndex source index) index)
    writeLength id count
    return .object id

/-! ## Looking at items -/

/-- The item at an index, if it is there. -/
def present? (id index : Nat) : Run (Option Value) := do
  let key := Key.ofNat index
  if ← hasProperty id key then return some (← read id key) else return none

/-- Hands the items that are there to a function until it has a result. -/
def findPresent (indices : List Nat) (id : Nat) (body : Nat → Value → Run (Option α)) :
    Run (Option α) := do
  match indices with
  | [] => return none
  | index :: rest =>
    match ← present? id index with
    | some item =>
      match ← body index item with
      | some result => return some result
      | none => findPresent rest id body
    | none => findPresent rest id body

/-- Hands the items that are there to a function. -/
def eachPresent (id count : Nat) (body : Nat → Value → Run Unit) : Run Unit := do
  for index in List.range count do
    if let some item ← present? id index then body index item

/-- An array method that calls a function with every item, its index and the array. -/
def withFunction (message : String) (code : Nat → Nat → (Nat → Value → Run Value) → Run Value) :
    Native :=
  fun this arguments => do
    let id ← objectOf this
    let count ← lengthOf id
    let function := argument arguments 0
    requireFunction function message
    code id count fun index item =>
      apply function (argument arguments 1) [item, .ofNat index, .object id]

def forEach : Native :=
  withFunction "Array.prototype.forEach: invalid callback function" fun id count call => do
    eachPresent id count fun index item => discard (call index item)
    return .undefined

def mapItems : Native :=
  withFunction "Array.prototype.map: Callbackfn is not callable" fun id count call => do
    let result ← addAlike id count
    eachPresent id count fun index item => do
      createOrThrow result (.ofNat index) (← call index item)
    return .object result

def filterItems : Native :=
  withFunction "Array.prototype.filter: \x60callback\x60 must be callable" fun id count call => do
    let result ← addAlike id 0
    let mut kept := 0
    for index in List.range count do
      if let some item ← present? id index then
        if (← call index item).isTruthy then
          createOrThrow result (.ofNat kept) item
          kept := kept + 1
    return .object result

/-- Whether a function says the same of some item: where it does, the answer is this. -/
def anyItem (name : String) (wanted : Bool) : Native :=
  withFunction ("Array.prototype." ++ name ++ ": callback is not callable") fun id count call => do
    let found ← findPresent (List.range count) id fun index item => do
      if (← call index item).isTruthy == wanted then return some () else return none
    return .bool (found.isSome == wanted)

/-- The first item, or its index, of which a function says yes; missing ones count as
undefined. -/
def findItem (name : String) (fromEnd givesIndex : Bool) : Native :=
  withFunction ("Array.prototype." ++ name ++ ": predicate is not callable") fun id count call => do
    let indices := if fromEnd then (List.range count).reverse else List.range count
    let rec search : List Nat → Run Value
      | [] => return if givesIndex then .ofInt (-1) else .undefined
      | index :: rest => do
        let item ← readIndex id index
        if (← call index item).isTruthy then return if givesIndex then .ofNat index else item
        else search rest
    search indices

/-- Puts the items together by a function, from the start or from the end. -/
def reduceItems (name : String) (fromEnd : Bool) : Native := fun this arguments => do
  let id ← objectOf this
  let count ← lengthOf id
  let function := argument arguments 0
  requireFunction function ("Array.prototype." ++ name ++ ": callback function is not callable")
  let mut result := arguments[1]?
  for index in if fromEnd then (List.range count).reverse else List.range count do
    if let some item ← present? id index then
      match result with
      | none => result := some item
      | some before =>
        result := some (← apply function .undefined [before, item, .ofNat index, .object id])
  match result with
  | some value => return value
  | none =>
    throwType ("Array.prototype." ++ name ++ ": called on an empty array and with no initial value")

def includesItem : Native := fun this arguments => do
  let id ← objectOf this
  let count ← lengthOf id
  if count = 0 then return .bool false
  let start ← placeIn count (argument arguments 1) 0
  let rec search : List Nat → Run Bool
    | [] => return false
    | index :: rest => do
      if (← readIndex id index).isSameItem (argument arguments 0) then return true else search rest
  return .bool (← search ((List.range count).drop start))

def indexOfItem : Native := fun this arguments => do
  let id ← objectOf this
  let count ← lengthOf id
  if count = 0 then return .ofInt (-1)
  let start ← placeIn count (argument arguments 1) 0
  let found ← findPresent ((List.range count).drop start) id fun index item =>
    return if item.isIdentical (argument arguments 0) then some index else none
  return (found.map Value.ofNat).getD (.ofInt (-1))

def lastIndexOfItem : Native := fun this arguments => do
  let id ← objectOf this
  let count ← lengthOf id
  if count = 0 then return .ofInt (-1)
  let last ← match arguments[1]? with
    | none => pure (some (count - 1))
    | some value => do
      match ← wholeOf value with
      | .below => pure none
      | .above => pure (some (count - 1))
      | .whole n =>
        let place := if n < 0 then count + n else min n (count - 1)
        pure (if place < 0 then none else some place.toNat)
  match last with
  | none => return .ofInt (-1)
  | some last =>
    let found ← findPresent (List.range (last + 1)).reverse id fun index item =>
      return if item.isIdentical (argument arguments 0) then some index else none
    return (found.map Value.ofNat).getD (.ofInt (-1))

def itemAt : Native := fun this arguments => do
  let id ← objectOf this
  let count ← lengthOf id
  match ← wholeOf (argument arguments 0) with
  | .whole n =>
    let place := if n < 0 then count + n else n
    if place < 0 || (count : Int) ≤ place then return .undefined else readIndex id place.toNat
  | _ => return .undefined

/-! ## Texts -/

/-- The texts of items with a separator between them. An array inside itself has none. -/
def joinWith (id : Nat) (separator : List UInt16) (write : Value → Run (List UInt16)) :
    Run Value := do
  if (← get).joining.contains id then return .text []
  modify fun realm => { realm with joining := id :: realm.joining }
  let finish : Run Unit := modify fun realm => { realm with joining := realm.joining.tail }
  let texts ← tryCatch
    (do (← itemsOf id).mapM fun item => if item.isNullish then return [] else write item)
    fun thrown => do
      finish
      throw thrown
  finish
  return .text (List.intercalate separator texts)

def joinItems : Native := fun this arguments => do
  let id ← objectOf this
  joinWith id (← textOr (argument arguments 0) (Text.units ",")) textOf

def arrayText : Native := fun this _ => do
  let id ← objectOf this
  let join ← read id (.name "join")
  if ← isFunction join then apply join (.object id) [] else objectText (.object id) []

def arrayLocalText : Native := fun this _ => do
  joinWith (← objectOf this) (Text.units ", ") fun item => do
    textOf (← invoke item (.name "toLocaleString") [])

/-! ## Changing arrays -/

def pushItems : Native := fun this arguments => do
  let id ← objectOf this
  let count ← lengthOf id
  if maxSafe < count + arguments.length then
    throwType "the length + the number of arguments exceed the maximum safe integer limit"
  for (item, index) in arguments.zipIdx count do write id (.ofNat index) item
  writeLength id (count + arguments.length)
  return .ofNat (count + arguments.length)

def popItem : Native := fun this _ => do
  let id ← objectOf this
  let count ← lengthOf id
  if count = 0 then
    writeLength id 0
    return .undefined
  let item ← readIndex id (count - 1)
  deleteOrThrow id (.ofNat (count - 1))
  writeLength id (count - 1)
  return item

/-- Moves an item to another index, or its absence. -/
def moveItem (id origin target : Nat) : Run Unit := do
  match ← present? id origin with
  | some item => write id (.ofNat target) item
  | none => deleteOrThrow id (.ofNat target)

def shiftItem : Native := fun this _ => do
  let id ← objectOf this
  let count ← lengthOf id
  if count = 0 then
    writeLength id 0
    return .undefined
  let item ← readIndex id 0
  for index in List.range (count - 1) do moveItem id (index + 1) index
  deleteOrThrow id (.ofNat (count - 1))
  writeLength id (count - 1)
  return item

def unshiftItems : Native := fun this arguments => do
  let id ← objectOf this
  let count ← lengthOf id
  let more := arguments.length
  if 0 < more then
    if maxSafe < count + more then
      throwType "length + number of arguments exceeds the max safe integer limit"
    for index in (List.range count).reverse do moveItem id index (index + more)
    for (item, index) in arguments.zipIdx do write id (.ofNat index) item
  writeLength id (count + more)
  return .ofNat (count + more)

def reverseItems : Native := fun this _ => do
  let id ← objectOf this
  let count ← lengthOf id
  for low in List.range (count / 2) do
    let high := count - 1 - low
    let first ← present? id low
    let last ← present? id high
    let put (index : Nat) (item : Option Value) : Run Unit :=
      match item with
      | some item => write id (.ofNat index) item
      | none => deleteOrThrow id (.ofNat index)
    put low last
    put high first
  return .object id

def fillItems : Native := fun this arguments => do
  let id ← objectOf this
  let count ← lengthOf id
  let start ← placeIn count (argument arguments 1) 0
  let finish ← placeIn count (argument arguments 2) count
  for index in (List.range finish).drop start do write id (.ofNat index) (argument arguments 0)
  return .object id

def copyItemsWithin : Native := fun this arguments => do
  let id ← objectOf this
  let count ← lengthOf id
  let target ← placeIn count (argument arguments 0) 0
  let start ← placeIn count (argument arguments 1) 0
  let finish ← placeIn count (argument arguments 2) count
  let moved := min (finish - start) (count - target)
  let offsets := List.range moved
  for offset in if start < target && target < start + moved then offsets.reverse else offsets do
    moveItem id (start + offset) (target + offset)
  return .object id

def sliceItems : Native := fun this arguments => do
  let id ← objectOf this
  let count ← lengthOf id
  let start ← placeIn count (argument arguments 0) 0
  let finish ← placeIn count (argument arguments 1) count
  let result ← addAlike id (finish - start)
  for offset in List.range (finish - start) do
    if let some item ← present? id (start + offset) then createOrThrow result (.ofNat offset) item
  writeLength result (finish - start)
  return .object result

/-- Where a method cuts items out of a list of so many, and how many. -/
def cutOf (count : Nat) (arguments : List Value) : Run (Nat × Nat) := do
  let start ← placeIn count (argument arguments 0) 0
  match arguments with
  | [] => return (start, 0)
  | [_] => return (start, count - start)
  | _ => return (start, (← clampOf (argument arguments 1) 0 (count - start : Nat)).toNat)

def spliceItems : Native := fun this arguments => do
  let id ← objectOf this
  let count ← lengthOf id
  let (start, cut) ← cutOf count arguments
  let items := arguments.drop 2
  let result ← addAlike id cut
  for offset in List.range cut do
    if let some item ← present? id (start + offset) then createOrThrow result (.ofNat offset) item
  writeLength result cut
  let rest := (List.range (count - cut)).drop start
  if items.length < cut then
    for index in rest do moveItem id (index + cut) (index + items.length)
    for index in ((List.range count).drop (count - cut + items.length)).reverse do
      deleteOrThrow id (.ofNat index)
  else if cut < items.length then
    for index in rest.reverse do moveItem id (index + cut) (index + items.length)
  for (item, offset) in items.zipIdx do write id (.ofNat (start + offset)) item
  writeLength id (count - cut + items.length)
  return .object result

def concatItems : Native := fun this arguments => do
  let id ← objectOf this
  let result ← addAlike id 0
  let mut count := 0
  for item in Value.object id :: arguments do
    let spreads ← match item with
      | .object source => do
        match ← read source (.standard "isConcatSpreadable") with
        | .undefined => isArray item
        | flag => pure flag.isTruthy
      | _ => pure false
    match spreads, item with
    | true, .object source => do
      let size ← lengthOf source
      let start := count
      eachPresent source size fun index item => createOrThrow result (.ofNat (start + index)) item
      count := count + size
    | _, _ => do
      createOrThrow result (.ofNat count) item
      count := count + 1
  writeLength result count
  return .object result

/-- The items of an object and, so deep, those of the arrays among them. -/
def flatItems : Nat → Nat → Run (List Value)
  | depth, id => do
    let mut items := []
    for index in List.range (← lengthOf id) do
      if let some item ← present? id index then
        let inner ← match depth, item with
          | depth + 1, .object inner => do
            if ← isArray item then flatItems depth inner else pure [item]
          | _, _ => pure [item]
        items := inner.reverse ++ items
    return items.reverse

/-- Puts items into a new array that is like another. -/
def collectAlike (id : Nat) (items : List Value) : Run Value := do
  let result ← addAlike id 0
  for (item, index) in items.zipIdx do createOrThrow result (.ofNat index) item
  return .object result

/-- How deep arrays may be flattened. -/
def maxFlatDepth : Nat := 500

def flattenItems : Native := fun this arguments => do
  let id ← objectOf this
  let depth ← match argument arguments 0 with
    | .undefined => pure 1
    | value => do pure (← clampOf value 0 maxFlatDepth).toNat
  collectAlike id (← flatItems depth id)

def flatMapItems : Native :=
  withFunction "flatMap mapper function is not callable" fun id count call => do
    let mut items := []
    for index in List.range count do
      if let some item ← present? id index then
        let mapped ← call index item
        let inner ← match mapped with
          | .object inner => do if ← isArray mapped then flatItems 0 inner else pure [mapped]
          | _ => pure [mapped]
        items := inner.reverse ++ items
    collectAlike id items.reverse

/-! ## Order -/

/-- Two sorted lists as one; of equal items the one from the first list comes first. The
fuel is more than the items of both. -/
def mergeSorted (isAfter : α → α → Run Bool) : Nat → List α → List α → Run (List α)
  | 0, xs, ys => return xs ++ ys
  | _, [], ys => return ys
  | _, xs, [] => return xs
  | fuel + 1, x :: xs, y :: ys => do
    if ← isAfter x y then return y :: (← mergeSorted isAfter fuel (x :: xs) ys)
    else return x :: (← mergeSorted isAfter fuel xs (y :: ys))

/-- A list in order; the fuel is more than its length. -/
def mergeSort (isAfter : α → α → Run Bool) : Nat → List α → Run (List α)
  | 0, items => return items
  | fuel + 1, items => do
    if items.length < 2 then return items
    let half := items.length / 2
    let first ← mergeSort isAfter fuel (items.take half)
    let second ← mergeSort isAfter fuel (items.drop half)
    mergeSorted isAfter (items.length + 1) first second

/-- Values in the order of a function or of their texts; undefined ones come last. -/
def sortValues (function : Value) (items : List Value) : Run (List Value) := do
  let (missing, present) := items.partition (· == .undefined)
  if function = .undefined then
    let texts ← present.mapM fun item => do return (← textOf item, item)
    let isAfter (x y : List UInt16 × Value) : Run Bool := return decide (y.1 < x.1)
    return (← mergeSort isAfter (texts.length + 1) texts).map (·.2) ++ missing
  else
    let isAfter (x y : Value) : Run Bool := do
      let order ← numberOf (← apply function .undefined [x, y])
      return (Double.ofNat 0).isBelow order
    return (← mergeSort isAfter (present.length + 1) present) ++ missing

def requireOrder (function : Value) : Run Unit := do
  if function != .undefined then
    requireFunction function "The comparison function must be either a function or undefined"

def sortItems : Native := fun this arguments => do
  let function := argument arguments 0
  requireOrder function
  let id ← objectOf this
  let count ← lengthOf id
  let mut items := []
  for index in List.range count do
    if let some item ← present? id index then items := item :: items
  let sorted ← sortValues function items.reverse
  for (item, index) in sorted.zipIdx do write id (.ofNat index) item
  for index in (List.range count).drop sorted.length do
    if ← hasProperty id (.ofNat index) then deleteOrThrow id (.ofNat index)
  return .object id

/-! ## Changed copies -/

def reversedItems : Native := fun this _ => do
  addArray (← itemsOf (← objectOf this)).reverse

def sortedItems : Native := fun this arguments => do
  let function := argument arguments 0
  requireOrder function
  addArray (← sortValues function (← itemsOf (← objectOf this)))

def splicedItems : Native := fun this arguments => do
  let id ← objectOf this
  let items ← itemsOf id
  let (start, cut) ← cutOf items.length arguments
  addArray (items.take start ++ arguments.drop 2 ++ items.drop (start + cut))

def withItem : Native := fun this arguments => do
  let id ← objectOf this
  let count ← lengthOf id
  let place ← match ← wholeOf (argument arguments 0) with
    | .whole n => pure (if n < 0 then (count : Int) + n else n)
    | _ => pure (-1)
  if place < 0 || (count : Int) ≤ place then throwRange "invalid integer index"
  addArray ((← itemsOf id).set place.toNat (argument arguments 1))

/-! ## Iterators -/

/-- An iterator over an array or an object like one. -/
def iterateItems (aspect : Aspect) : Native := fun this _ => do
  addKind (.iterator (.items (← objectOf this) 0 aspect))

end Run

open Run in
def Class.array : Class where
  name := "Array"
  length := 1
  call := fun _ arguments => makeArray arguments .undefined
  making := some makeArray
  statics := [
    .method "from" 1 arrayFrom,
    .method "isArray" 1 (fun _ arguments => return .bool (← isArray (argument arguments 0))),
    .method "of" 0 arrayOf,
    .species]
  methods := [
    .method "at" 1 itemAt,
    .method "concat" 1 concatItems,
    .method "copyWithin" 2 copyItemsWithin,
    .method "entries" 0 (iterateItems .entries),
    .method "every" 1 (anyItem "every" false),
    .method "fill" 1 fillItems,
    .method "filter" 1 filterItems,
    .method "find" 1 (findItem "find" false false),
    .method "findIndex" 1 (findItem "findIndex" false true),
    .method "findLast" 1 (findItem "findLast" true false),
    .method "findLastIndex" 1 (findItem "findLastIndex" true true),
    .method "flat" 0 flattenItems,
    .method "flatMap" 1 flatMapItems,
    .method "forEach" 1 forEach,
    .method "includes" 1 includesItem,
    .method "indexOf" 1 indexOfItem,
    .method "join" 1 joinItems,
    .method "keys" 0 (iterateItems .keys),
    .method "lastIndexOf" 1 lastIndexOfItem,
    .method "map" 1 mapItems,
    .method "pop" 0 popItem,
    .method "push" 1 pushItems,
    .method "reduce" 1 (reduceItems "reduce" false),
    .method "reduceRight" 1 (reduceItems "reduceRight" true),
    .method "reverse" 0 reverseItems,
    .method "shift" 0 shiftItem,
    .method "slice" 2 sliceItems,
    .method "some" 1 (anyItem "some" true),
    .method "sort" 1 sortItems,
    .method "splice" 2 spliceItems,
    .method "toLocaleString" 0 arrayLocalText,
    .method "toReversed" 0 reversedItems,
    .method "toSorted" 1 sortedItems,
    .method "toSpliced" 2 splicedItems,
    .method "toString" 0 arrayText,
    .method "unshift" 1 unshiftItems,
    .method "values" 0 (iterateItems .values),
    .method "with" 2 withItem,
    .again (.standard "iterator") (.name "values")]

end ServerRender.Script
