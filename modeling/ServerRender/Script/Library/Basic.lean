import ServerRender.Script.Iteration
import ServerRender.Script.Operation

/-!
# Functions, classes and namespaces of the language

How the library of the language is written down: a class or a namespace has members,
which are functions with the code that they run, accessors and constants.
-/

namespace ServerRender.Script

/-- The code of a function, given its `this` and its arguments. -/
abbrev Native := Value → List Value → Run Value

/-- What `new` makes, given the arguments and the function behind `new`. -/
abbrev Making := List Value → Value → Run Value

/-- Something that a class or a namespace has. -/
inductive Member where
  | method (name : String) (length : Nat) (code : Native)
  /-- A function under a symbol of the language. -/
  | keyed (symbol name : String) (length : Nat) (code : Native)
  | accessor (key : Key) (getter : Native) (setter : Option Native)
  | constant (key : Key) (property : Property)
  /-- The same as another member. -/
  | again (key : Key) (other : Key)

/-- A class with its constructor. -/
structure Class where
  name : String
  /-- How many parameters the constructor has. -/
  length : Nat
  /-- What a call without `new` does. -/
  call : Native
  making : Option Making
  statics : List Member
  methods : List Member

/-- An object that holds functions and constants. -/
structure Namespace where
  name : String
  members : List Member

namespace Member

/-- A constant that stays as it is. -/
def fixed (name : String) (value : Value) : Member :=
  .constant (.ofString name) (.fixed value)

/-- The text that the class of an object goes by. -/
def tag (name : String) : Member :=
  .constant (.standard "toStringTag") (.readOnly (.ofString name))

def getter (name : String) (code : Native) : Member :=
  .accessor (.ofString name) code none

/-- The class that makes what its methods give. -/
def species : Member :=
  .accessor (.standard "species") (fun this _ => return this) none

/-- The name that the function of a member has. -/
def functionName : Member → String
  | method name _ _ => name
  | keyed _ name _ _ => name
  | accessor key _ _ => "get " ++ Text.ofUnits key.functionName
  | _ => ""

/-- The functions of a member by their names. -/
def functions : Member → List (String × Native)
  | method name _ code => [(name, code)]
  | keyed _ name _ code => [(name, code)]
  | accessor key getter setter =>
    let name := Text.ofUnits key.functionName
    ("get " ++ name, getter) :: (setter.map fun code => ("set " ++ name, code)).toList
  | _ => []

end Member

namespace Run

/-- An argument; a missing one is undefined. -/
def argument (arguments : List Value) (index : Nat) : Value :=
  arguments.getD index .undefined

/-- A class that cannot be called without `new`. -/
def refuseCall (name : String) : Native := fun _ _ =>
  throwType ("calling a builtin " ++ name ++ " constructor without new is forbidden")

/-- The prototype of what `new` makes: that of the function behind `new`, or else that of
the class. -/
def prototypeFor (target : Value) (className : String) : Run Nat := do
  match target with
  | .object id =>
    match ← read id (.name "prototype") with
    | .object prototype => return prototype
    | _ => return prototypePlace className
  | _ => return prototypePlace className

/-- Adds an object of a class for `new`. -/
def addFor (target : Value) (className : String) (object : Object) : Run Nat := do
  addPlace { object with parent := some (← prototypeFor target className) }

/-- Adds an object of a kind for `new`. -/
def addKindFor (target : Value) (kind : Kind) : Run Value := do
  return .object (← addFor target kind.className (.ofKind kind .empty))

/-- Refuses a value that cannot be called. -/
def requireFunction (value : Value) (message : String) : Run Unit := do
  if !(← isFunction value) then throwType message

/-- The text of a value, and of undefined another one. -/
def textOr (value : Value) (default : List UInt16) : Run (List UInt16) := do
  if value = .undefined then return default else textOf value

/-- The primitive of a class that a value is or holds. -/
def primitiveThis (className noun : String) (this : Value) : Run Value := do
  let held := match ← kindOf? this with
    | some (.boxed inner) => inner
    | _ => this
  if held.className? = some className then return held else throwType ("'this' is not a " ++ noun)

/-- A primitive of a class as an object, for `new`. -/
def addBoxed (target : Value) (className : String) (value : Value) : Run Value := do
  let properties := match value with
    | .text units => Properties.ofEntries [(.name "length", .fixed (.ofNat units.length))]
    | _ => .empty
  return .object (← addFor target className (.ofKind (.boxed value) properties))

/-- The object that makes what a method gives: by the class of `this`. -/
def speciesOf (id : Nat) (className : String) : Run Value := do
  let default := Value.object (constructorPlace className)
  match ← read id (.name "constructor") with
  | .undefined => return default
  | .object constructor =>
    let wanted ← read constructor (.standard "species")
    if wanted.isNullish then return default
    else if (← heap).constructs wanted then return wanted
    else throwType "property 'constructor' is not a constructor"
  | _ => throwType "property 'constructor' is not an object"

end Run

end ServerRender.Script
