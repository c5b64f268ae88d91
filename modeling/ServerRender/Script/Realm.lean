import ServerRender.Script.Heap

/-!
# Realms

The world of a script: a heap with the global object at place zero, the variables of the
functions that have run, and what the script has logged. A run of script code changes
its realm also where it ends with a throw. How functions are called is for a machine to
say, which runs of code are given.
-/

namespace ServerRender.Script

structure Variable where
  name : String
  /-- Missing before the declaration has run. -/
  value : Option Value
  isConstant : Bool
  deriving Inhabited

/-- Where names are looked up. -/
inductive Environment where
  | named (entries : List Variable)
  /-- The properties of an object are the variables. -/
  | properties (object : Nat)
  deriving Inhabited

structure Realm where
  heap : Heap
  /-- The first one holds the variables of scripts that are no globals. -/
  environments : Array Environment
  /-- How many symbols there are. -/
  symbols : Nat
  /-- Symbols that are shared by a name. -/
  registry : List (List UInt16 × Symbol)
  /-- The values that an expression has given names. -/
  shared : List (String × Value)
  /-- The arrays whose items are being put into one text. -/
  joining : List Nat
  /-- What was logged, the latest first. -/
  log : List Log.Event
  deriving Inhabited

/-- Code that changes a realm and has a value or throws. -/
abbrev Action := ExceptT Thrown (StateM Realm)

/-- How functions are called. -/
structure Machine where
  /-- Calls a function with its `this` and its arguments. -/
  apply : Value → Value → List Value → Action Value
  /-- Makes an object with a function, arguments and the function behind `new`. -/
  construct : Value → List Value → Value → Action Value
  /-- Gives an object what the constructor of a class puts into each of its objects. -/
  furnish : Nat → Nat → Action Unit
  /-- Runs the statements of a function that has its arguments. -/
  resume : Procedure → List Nat → Action Value
  /-- Runs a text as a script. -/
  evaluate : String → Action Value
  /-- Makes a function from the texts of its parameters and its body. -/
  compile : String → String → Action Value

/-- A run of script code. -/
abbrev Run := ReaderT Machine Action

namespace Run

def throwNative (error : NativeError) : Run α :=
  throw (.native error)

def throwType (message : String) : Run α :=
  throwNative (.typeError message)

def throwRange (message : String) : Run α :=
  throwNative (.rangeError message)

def throwValue (value : Value) : Run α :=
  throw (.value value)

def apply (function this : Value) (arguments : List Value) : Run Value :=
  fun machine => machine.apply function this arguments

/-- Makes an object; `target` is the function behind `new`. -/
def construct (function : Value) (arguments : List Value) (target : Value) : Run Value :=
  fun machine => machine.construct function arguments target

/-- Gives an object the fields of a class. -/
def furnish (owner id : Nat) : Run Unit :=
  fun machine => machine.furnish owner id

/-! ## The heap -/

def heap : Run Heap := do
  return (← get).heap

def changeHeap (f : Heap → Heap) : Run Unit :=
  modify fun realm => { realm with heap := f realm.heap }

def changeObject (id : Nat) (f : Object → Object) : Run Unit :=
  changeHeap fun heap => heap.modify id f

def changeKind (id : Nat) (kind : Kind) : Run Unit :=
  changeObject id fun object => { object with kind }

def kindOf? (value : Value) : Run (Option Kind) := do
  return (← heap).kind? value

def isFunction (value : Value) : Run Bool := do
  return (← heap).isFunction value

/-- Adds an object; the number is its place. -/
def addPlace (object : Object) : Run Nat :=
  modifyGet fun realm =>
    let (id, heap) := realm.heap.add object
    (id, { realm with heap })

def addObject (object : Object) : Run Value :=
  return .object (← addPlace object)

def addKind (kind : Kind) : Run Value :=
  addObject (.ofKind kind .empty)

def addPlain (entries : List (String × Value)) : Run Value :=
  addObject (.ofKind .plain (.ofValues entries))

def addArray (items : List Value) : Run Value :=
  addObject (.array (items.map some))

/-- Gives an object a property, whatever it has. -/
def store (id : Nat) (key : Key) (property : Property) : Run Unit :=
  changeHeap fun heap => heap.setProperty id key property

def setParent (id : Nat) (parent : Option Nat) : Run Unit :=
  changeObject id fun object => { object with parent }

/-- Length and name of a function as its first properties. -/
def functionProperties (name : List UInt16) (length : Nat) : List (Key × Property) :=
  [(.name "length", .readOnly (.ofNat length)), (.name "name", .readOnly (.text name))]

/-- A function that makes no objects. -/
def addFunction (name : List UInt16) (length : Nat) (behaviour : Behaviour) : Run Value :=
  addObject (.ofKind (.function behaviour false) (.ofEntries (functionProperties name length)))

/-- The object that a script catches. -/
def caught (thrown : Thrown) : Run Value := do
  match thrown with
  | .value value => return value
  | .native error =>
    modifyGet fun realm =>
      let (id, heap) := realm.heap.addError error
      (.object id, { realm with heap })
  | _ => return .undefined

/-- Whether a script can catch what is thrown. -/
def isCatchable : Thrown → Bool
  | .value _ => true
  | .native error => error != .tooManyCalls
  | _ => false

/-- Runs code and hands what a script can catch to a handler. -/
def catching (body : Run α) (handler : Thrown → Run α) : Run α :=
  tryCatch body fun thrown => if isCatchable thrown then handler thrown else throw thrown

/-! ## Symbols -/

def addSymbol (description : Option (List UInt16)) : Run Symbol :=
  modifyGet fun realm =>
    (.fresh realm.symbols description, { realm with symbols := realm.symbols + 1 })

/-! ## Globals -/

/-- The place of the global object. -/
def globalId : Nat := 0

/-- A global function or class by its name, whatever scripts have made of it. -/
def addGlobal (name : String) (value : Value) : Run Unit :=
  store globalId (.ofString name) (.unlisted value)

/-! ## Environments -/

/-- Adds an environment; the number is its place. -/
def addEnvironment (environment : Environment) : Run Nat :=
  modifyGet fun realm =>
    (realm.environments.size, { realm with environments := realm.environments.push environment })

def addVariables (entries : List Variable) : Run Nat :=
  addEnvironment (.named entries)

def changeVariables (id : Nat) (f : List Variable → List Variable) : Run Unit :=
  modify fun realm =>
    { realm with environments := realm.environments.modify id fun
        | .named entries => .named (f entries)
        | environment => environment }

/-- Gives a variable of an environment a value, or adds it. -/
def initialise (id : Nat) (name : String) (value : Value) : Run Unit :=
  changeVariables id fun entries =>
    if entries.any fun entry => entry.name == name then
      entries.map fun entry => if entry.name == name then { entry with value := some value }
        else entry
    else ⟨name, some value, false⟩ :: entries

end Run

end ServerRender.Script
