import ServerRender.Script.Library.Objects

/-!
# Reflection

The operations on objects as functions, and objects whose operations are functions.
-/

namespace ServerRender.Script

namespace Run

/-- The object that an operation is about. -/
def targetOf (arguments : List Value) : Run Nat := do
  match argument arguments 0 with
  | .object id => return id
  | _ => throwType "target must be an object"

def reflectApply : Native := fun _ arguments => do
  let function := argument arguments 0
  requireFunction function "target must be a function"
  apply function (argument arguments 1) (← listLike (argument arguments 2))

def reflectConstruct : Native := fun _ arguments => do
  let function := argument arguments 0
  if !(← heap).constructs function then throwType "target must be a constructor"
  let target := arguments.getD 2 function
  if !(← heap).constructs target then throwType "newTarget must be a constructor"
  construct function (← listLike (argument arguments 1)) target

def reflectDefine : Native := fun _ arguments => do
  let id ← targetOf arguments
  let key ← keyOf (argument arguments 1)
  return .bool (← define id key (← descriptorOf (argument arguments 2)))

def reflectGet : Native := fun _ arguments => do
  let id ← targetOf arguments
  readFrom id (← keyOf (argument arguments 1)) (arguments.getD 2 (.object id))

def reflectSet : Native := fun _ arguments => do
  let id ← targetOf arguments
  let key ← keyOf (argument arguments 1)
  return .bool (← writeTo id key (argument arguments 2) (arguments.getD 3 (.object id)))

def reflectDescribe : Native := fun _ arguments => do
  match ← ownProperty? (← targetOf arguments) (← keyOf (argument arguments 1)) with
  | some property => describe property
  | none => return .undefined

def reflectInherit : Native := fun _ arguments => do
  let id ← targetOf arguments
  match argument arguments 1 with
  | .object parent => return .bool (← inherit id (some parent))
  | .null => return .bool (← inherit id none)
  | _ => throwType "proto must be an object or null"

/-! ## Proxies -/

def addProxy (arguments : List Value) : Run Value := do
  let target := argument arguments 0
  let handler := argument arguments 1
  if !target.isObject then throwType "Proxy constructor requires object target"
  if !handler.isObject then throwType "Proxy constructor requires object handler"
  addObject ⟨.proxy target handler, .empty, none, true⟩

def revocableProxy : Native := fun _ arguments => do
  let proxy ← addProxy arguments
  let .object id := proxy | return proxy
  addPlain [("proxy", proxy), ("revoke", ← addFunction [] 0 (.revoker id))]

end Run

open Run in
def Namespace.reflect : Namespace where
  name := "Reflect"
  members := [
    .method "apply" 3 reflectApply,
    .method "construct" 2 reflectConstruct,
    .method "defineProperty" 3 reflectDefine,
    .method "deleteProperty" 2 (fun _ arguments => do
      return .bool (← delete (← targetOf arguments) (← keyOf (argument arguments 1)))),
    .method "get" 2 reflectGet,
    .method "getOwnPropertyDescriptor" 2 reflectDescribe,
    .method "getPrototypeOf" 1 (fun _ arguments => do
      return ((← parentOf (← targetOf arguments)).map Value.object).getD .null),
    .method "has" 2 (fun _ arguments => do
      return .bool (← hasProperty (← targetOf arguments) (← keyOf (argument arguments 1)))),
    .method "isExtensible" 1 (fun _ arguments => do
      return .bool (← isExtensible (← targetOf arguments))),
    .method "ownKeys" 1 (fun _ arguments => do
      addArray ((← ownKeys (← targetOf arguments)).map Key.value)),
    .method "preventExtensions" 1 (fun _ arguments => do
      return .bool (← preventExtensions (← targetOf arguments))),
    .method "set" 3 reflectSet,
    .method "setPrototypeOf" 2 reflectInherit,
    .tag "Reflect"]

open Run in
def Class.proxy : Class where
  name := "Proxy"
  length := 2
  call := fun _ _ => throwType "Proxy constructor called on undefined new target"
  making := some fun arguments _ => addProxy arguments
  statics := [.method "revocable" 2 revocableProxy]
  methods := []

end ServerRender.Script
