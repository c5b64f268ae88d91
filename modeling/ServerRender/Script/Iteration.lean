import ServerRender.Script.Change

/-!
# Iteration

Loops, and running over the items of a value by its iterator, which any object can
provide: one step after the other, or all of them at once.
-/

namespace ServerRender.Script

/-- An iterator that is under way. -/
structure Cursor where
  iterator : Value
  next : Value
  deriving Inhabited

namespace Run

/-! ## Loops -/

/-- Takes turns from a state on until one gives a result; at most `2 ^ doublings`. -/
def takeTurns (turn : σ → Run (Sum σ α)) : Nat → σ → Run (Sum σ α)
  | 0, state => turn state
  | doublings + 1, state => do
    match ← takeTurns turn doublings state with
    | .inl after => takeTurns turn doublings after
    | .inr result => return .inr result

/-- Takes turns until one gives a result. A loop that never ends is cut off. -/
def loop (turn : σ → Run (Sum σ α)) (state : σ) : Run α := do
  match ← takeTurns turn 22 state with
  | .inr result => return result
  | .inl _ => throwNative .tooManyCalls

/-! ## Iterators -/

/-- The iterator that a function gives for a value. -/
def cursorBy (method value : Value) : Run Cursor := do
  let iterator ← apply method value []
  if !iterator.isObject then throwType "returned iterator is not an object"
  return ⟨iterator, ← readName iterator "next"⟩

def notIterable (value : Value) : Run α := do
  throwType ("value with type \x60" ++ (← kindName value) ++ "\x60 is not iterable")

/-- The iterator of a value. -/
def cursorOf (value : Value) : Run Cursor := do
  match ← method? value (.standard "iterator") with
  | some method => cursorBy method value
  | none => notIterable value

/-- The next item, if there is one. -/
def advance (cursor : Cursor) : Run (Option Value) := do
  let result ← apply cursor.next cursor.iterator []
  if !result.isObject then throwType "next value should be an object"
  if (← readName result "done").isTruthy then return none
  return some (← readName result "value")

/-- Tells an iterator that no more items are wanted. -/
def close (cursor : Cursor) : Run Unit := do
  if let some method ← method? cursor.iterator (.name "return") then
    let result ← apply method cursor.iterator []
    if !result.isObject then throwType "inner result was not an object"

/-- Closes an iterator after a throw, whatever comes of it. -/
def abandon (cursor : Cursor) : Run Unit :=
  catching (close cursor) fun _ => return ()

/-- Runs code and, if it throws, closes an iterator. -/
def orAbandon (cursor : Cursor) (body : Run α) : Run α :=
  tryCatch body fun thrown => do
    if isCatchable thrown then abandon cursor
    throw thrown

/-- Hands the items to a function, with a state that it changes, until it has a result;
otherwise the result is made of the last state. -/
def searchFrom (cursor : Cursor) (body : σ → Value → Run (Sum σ α)) (last : σ → α) (state : σ) :
    Run α :=
  loop (fun state => do
    match ← advance cursor with
    | none => return .inr (last state)
    | some item =>
      match ← orAbandon cursor (body state item) with
      | .inr result =>
        close cursor
        return .inr result
      | .inl after => return .inl after) state

/-- Hands the items of a value to a function. -/
def forEachItem (value : Value) (body : Value → Run Unit) : Run Unit := do
  searchFrom (← cursorOf value) (fun _ item => do return .inl (← body item)) id ()

/-- All items that are left. -/
def restOf (cursor : Cursor) : Run (List Value) := do
  let items ← loop (fun items => do
    match ← advance cursor with
    | none => return .inr items
    | some item => return .inl (item :: items)) []
  return items.reverse

/-- The items of a value by its iterator. -/
def listOf (value : Value) : Run (List Value) := do
  restOf (← cursorOf value)

/-- The items of an array or of an object like one, which arguments are taken from. -/
def listLike (value : Value) : Run (List Value) := do
  match value with
  | .object id => itemsOf id
  | _ => throwType "cannot create list from a primitive value"

/-- The object with which an iterator answers. -/
def addResult (value : Value) (isDone : Bool) : Run Value :=
  addPlain [("value", value), ("done", .bool isDone)]

end Run

end ServerRender.Script
