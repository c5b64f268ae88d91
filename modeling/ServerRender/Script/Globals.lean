import ServerRender.Engine
import ServerRender.Script.Activity
import ServerRender.Script.Conversion
import ServerRender.Script.Failure

/-!
# Globals and runs

What a script finds before any script has run, and how a run in a realm ends.
-/

namespace ServerRender.Script

namespace Run

/-! ## The library -/

/-- Adds a function of the library. -/
def addBuiltin (owner codeName name : String) (length : Nat) : Run Value :=
  addFunction (Text.units name) length (.builtin owner codeName)

/-- How a function stands under a symbol: two of them cannot be assigned. -/
def keyedProperty (symbol : String) (function : Value) : Property :=
  if symbol == "hasInstance" then .fixed function
  else if symbol == "toPrimitive" then .readOnly function
  else .unlisted function

/-- Adds a member of a class or a namespace to an object. -/
def addMember (owner : String) (id : Nat) (member : Member) : Run Unit := do
  match member with
  | .method name length _ =>
    store id (.ofString name) (.unlisted (← addBuiltin owner name name length))
  | .keyed symbol name length _ =>
    store id (.standard symbol) (keyedProperty symbol (← addBuiltin owner name name length))
  | .accessor key _ setter =>
    let name := Text.ofUnits key.functionName
    let get ← addBuiltin owner ("get " ++ name) ("get " ++ name) 0
    let set ← match setter with
      | some _ => addBuiltin owner ("set " ++ name) ("set " ++ name) 1
      | none => pure .undefined
    store id key ⟨.accessor get set, false, false, true⟩
  | .constant key property => store id key property
  | .again key other =>
    if let some property := (← heap).ownProperty? id other then store id key property

/-- What the constructor and the prototype of a class inherit from. -/
def classAncestors (name : String) : Nat × Option Nat :=
  let parent := if errorClasses.tail.contains name then some "Error"
    else if (itemClasses.map (·.1)).contains name then some "TypedArray"
    else none
  match parent with
  | some parent => (constructorPlace parent, some (prototypePlace parent))
  | none =>
    (prototypePlace "Function", if name == "Object" then none else some (prototypePlace "Object"))

/-- The prototype of a class. Some are objects of their class themselves. -/
def prototypeOf (name : String) : Object :=
  let kind := match name with
    | "Function" => Kind.function (.builtin "" "") false
    | "Array" => .array
    | "String" => .boxed (.text [])
    | "Number" => .boxed (.ofNat 0)
    | "Boolean" => .boxed (.bool false)
    | _ => .plain
  let properties :=
    if name == "Array" then Properties.ofEntries [Object.lengthProperty 0] else .empty
  ⟨kind, properties, (classAncestors name).2, true⟩

/-- Adds a class whose constructor and prototype have fixed places. A proxy has no
prototype of its own. -/
def addLibraryClass (which : Class) : Run Unit := do
  let constructor := constructorPlace which.name
  let prototype := prototypePlace which.name
  let shown := if which.name == "Proxy" then []
    else [(Key.name "prototype", Property.fixed (.object prototype))]
  let properties := functionProperties (Text.units which.name) which.length ++ shown
  changeObject constructor fun _ =>
    ⟨.function (.builtin which.name constructorName) which.making.isSome, .ofEntries properties,
      some (classAncestors which.name).1, true⟩
  store prototype (.name "constructor") (.unlisted (.object constructor))
  which.statics.forM (addMember which.name constructor)
  which.methods.forM (addMember which.methodOwner prototype)
  addGlobal which.name (.object constructor)

/-- What the prototypes of iterators and of functions inherit from. -/
def iteratorAncestor (name : String) : String :=
  if name == "Iterator" || name == "AsyncIterator" then "Object"
  else if name == "AsyncGenerator" then "AsyncIterator"
  else if name.endsWith "Function" then "Function"
  else "Iterator"

def addIteratorPrototype (space : Namespace) : Run Unit := do
  let id := prototypePlace space.name
  setParent id (some (prototypePlace (iteratorAncestor space.name)))
  space.members.forM (addMember space.name id)

def addNamespace (space : Namespace) : Run Unit := do
  let id ← addPlace (.ofKind .plain .empty)
  space.members.forM (addMember space.name id)
  addGlobal space.name (.object id)

/-- Takes the places that are fixed: the global object, the prototypes and the
constructors. -/
def addReserved : Run Unit := do
  discard (addPlace (.ofKind .plain .empty))
  prototypeNames.forM fun name => discard (addPlace (prototypeOf name))
  prototypeNames.forM fun _ => discard (addPlace (.ofKind .plain .empty))

/-- Functions of numbers that are also globals. -/
def sharedFunctions : List String :=
  ["parseInt", "parseFloat"]

/-- Gives a global object that is new its properties. -/
def defineLibrary : Run Unit := do
  addReserved
  addGlobal "globalThis" (.object globalId)
  let constants := [("undefined", Value.undefined), ("NaN", .notANumber), ("Infinity", .number .infinity)]
  for (name, value) in constants do
    store globalId (.name name) (.fixed value)
  Class.all.forM addLibraryClass
  Namespace.all.forM addNamespace
  Namespace.iterators.forM addIteratorPrototype
  Namespace.globals.members.forM (addMember "" globalId)
  for name in sharedFunctions do
    if let some property := (← heap).ownProperty? (constructorPlace "Number") (.name name) then
      store globalId (.name name) property

/-! ## The console -/

/-- The methods of the console. -/
def consoleMethods : List String :=
  ["debug", "trace", "log", "info", "warn", "error"]

def addConsole : Run Value := do
  let methods ← consoleMethods.filterMapM fun name => do
    match Log.Level.ofMethod? name with
    | some level => return some (name, ← addFunction (Text.units name) 0 (.log level))
    | none => return none
  let id ← addPlace (.ofKind .plain .empty)
  for (name, function) in methods do store id (.name name) (.unlisted function)
  return .object id

end Run

namespace Realm

def empty : Realm :=
  ⟨⟨#[]⟩, #[.named []], 0, [], [], [], []⟩

/-- Runs code in a realm. -/
def after (realm : Realm) (code : Run α) : Except Thrown α × Realm :=
  (code.run Run.machine).run.run realm

/-- A realm with the library of the language alone. -/
def bare : Realm :=
  (empty.after Run.defineLibrary).2

/-- A realm in which no script has run. -/
def fresh (console : Bool) : Realm :=
  if console then
    (bare.after do
      let value ← Run.addConsole
      Run.addGlobal "console" value).2
  else bare

/-- Runs code in a realm without a log: how it ended, the realm afterwards and what was
logged. -/
def run (realm : Realm) (code : Run α) : Except Thrown α × Realm × List Log.Event :=
  let (result, after) := { realm with log := [] }.after code
  (result, { after with log := [] }, after.log.reverse)

/-- Objects as a run looks at them. -/
def view : View (StateM Realm) where
  shape id := do
    let heap := (← get).heap
    if heap.isFunction (.object id) then return .function
    else match heap.get? id with
      | some object => return if object.isArray then .array object.length else .members
      | none => return .members
  keys id := ((Run.ownKeys id).run Run.machine).run
  read id key := ((Run.read id key).run Run.machine).run

/-- A value as JSON, which can run code. -/
def convert (value : Value) : Run Json :=
  fun _ => ExceptT.mk (toJson view value)

/-- What an engine makes of how a run ended. -/
def verdict (error : Description → EngineError) (result : Except Thrown α) : Run (Verdict α) := do
  match result with
  | .ok value => return .value value
  | .error thrown => return .failure (error (← Run.describeThrown thrown))

/-- Runs code whose end is told as an engine does. -/
def reply (realm : Realm) (error : Description → EngineError) (code : Run α) :
    Reply Realm (Verdict α) :=
  let told : Run (Verdict α) := do
    let result ← tryCatch (do return Except.ok (← code)) fun thrown => return .error thrown
    verdict error result
  match realm.run told with
  | (.ok verdict, after, events) => ⟨[], after, events, verdict⟩
  | (.error _, after, events) => ⟨[], after, events, .failure (.unavailable "")⟩

def load (realm : Realm) (code : Run Unit) : Reply Realm (Verdict Unit) :=
  realm.reply Description.loadError code

def eval (realm : Realm) (code : Run Value) : Reply Realm (Verdict Json) :=
  realm.reply Description.evalError do
    let value ← code
    convert value

end Realm

end ServerRender.Script
