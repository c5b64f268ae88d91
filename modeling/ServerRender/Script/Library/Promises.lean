import ServerRender.Script.Library.Basic

/-!
# Promises

A promise is settled at most once. What waits for one is never run: no script lives to
see it.
-/

namespace ServerRender.Script

namespace Run

def addPromise (settlement : Settlement) : Run Value :=
  addKind (.promise settlement)

/-- Settles a promise that is not settled. One that is settled by another promise waits. -/
def settle (promise : Nat) (fulfils : Bool) (value : Value) : Run Value := do
  match ← kindOf? (.object promise) with
  | some (.promise .pending) =>
    let waits ← if !fulfils then pure false
      else match value with
        | .object id => do isFunction (← read id (.name "then"))
        | _ => pure false
    if !waits then
      changeKind promise (.promise (if fulfils then .fulfilled value else .rejected value))
  | _ => pure ()
  return .undefined

/-- The functions that settle a promise. -/
def settlersOf (promise : Nat) : Run (Value × Value) := do
  return (← addFunction [] 1 (.settler promise true), ← addFunction [] 1 (.settler promise false))

/-- Runs code, and rejects a promise with what it throws. -/
def orReject (promise : Nat) (code : Run Unit) : Run Unit :=
  catching code fun thrown => do discard (settle promise false (← caught thrown))

def makePromise : Making := fun arguments target => do
  let executor := argument arguments 0
  requireFunction executor "Promise executor is not callable"
  let id ← addFor target "Promise" (.ofKind (.promise .pending) .empty)
  let (resolve, reject) ← settlersOf id
  orReject id (discard (apply executor .undefined [resolve, reject]))
  return .object id

def promiseThis (this : Value) : Run Nat := do
  match this, ← kindOf? this with
  | .object id, some (.promise _) => return id
  | _, _ => throwType "'this' is not a Promise"

/-- Refuses a class that is no object. -/
def requireClass (this : Value) (name : String) : Run Unit := do
  if !this.isObject then throwType ("Promise." ++ name ++ "() called on a non-object")

def resolvePromise : Native := fun this arguments => do
  requireClass this "resolve"
  let value := argument arguments 0
  match ← kindOf? value with
  | some (.promise _) =>
    if (← readName value "constructor") = this then return value
  | _ => pure ()
  let promise ← addPromise .pending
  match promise with
  | .object id => discard (settle id true value)
  | _ => pure ()
  return promise

def rejectPromise : Native := fun this arguments => do
  requireClass this "reject"
  addPromise (.rejected (argument arguments 0))

/-- Runs over the promises that another one waits for. -/
def combinePromises (name : String) (whenEmpty : Run (Option Settlement)) : Native :=
  fun this arguments => do
  requireClass this name
  let promise ← addPromise .pending
  let .object id := promise | return promise
  orReject id do
    let resolve ← readName this "resolve"
    requireFunction resolve "retrieving a non-callable promise resolver"
    let items ← listOf (argument arguments 0)
    for item in items do
      let inner ← apply resolve this [item]
      discard (invoke inner (.name "then") [])
    if items.isEmpty then
      if let some settlement ← whenEmpty then changeKind id (.promise settlement)
  return promise

def emptyList : Run (Option Settlement) := do
  return some (.fulfilled (← addArray []))

def promiseWithResolvers : Native := fun this _ => do
  requireClass this "withResolvers"
  let promise ← addPromise .pending
  let .object id := promise | return promise
  let (resolve, reject) ← settlersOf id
  addPlain [("promise", promise), ("resolve", resolve), ("reject", reject)]

def tryPromise : Native := fun this arguments => do
  requireClass this "try"
  let promise ← addPromise .pending
  let .object id := promise | return promise
  orReject id do
    discard (settle id true (← apply (argument arguments 0) .undefined (arguments.drop 1)))
  return promise

def awaitPromise : Native := fun this _ => do
  let _ ← promiseThis this
  addPromise .pending

end Run

open Run in
def Class.promise : Class where
  name := "Promise"
  length := 1
  call := fun _ _ => throwType "promise NewTarget cannot be undefined"
  making := some makePromise
  statics := [
    .method "all" 1 (combinePromises "all" emptyList),
    .method "allSettled" 1 (combinePromises "allSettled" emptyList),
    .method "any" 1 (combinePromises "any" (return none)),
    .method "race" 1 (combinePromises "race" (return none)),
    .method "reject" 1 rejectPromise,
    .method "resolve" 1 resolvePromise,
    .method "try" 1 tryPromise,
    .method "withResolvers" 0 promiseWithResolvers,
    .species]
  methods := [
    .method "then" 2 awaitPromise,
    .method "catch" 1
      (fun this arguments => invoke this (.name "then") [.undefined, argument arguments 0]),
    .method "finally" 1 (fun this arguments => do
      if !this.isObject then throwType "Promise.prototype.finally called with a non-object"
      invoke this (.name "then") [argument arguments 0, argument arguments 0]),
    .tag "Promise"]

end ServerRender.Script
