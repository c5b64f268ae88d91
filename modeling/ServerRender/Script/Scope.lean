import ServerRender.Script.Declaration
import ServerRender.Script.Iteration
import ServerRender.Script.Operation

/-!
# Variables and functions

Where names lead: to variables of the blocks and functions around them, to the
properties of an object, and last to the global object. What a function has from its
call stands among its variables under words that no variable has as its name: `this`,
`new` for the function behind `new`, `super` for the object whose method it is,
`function` for itself and `yield` for what it has given on its way.
-/

namespace ServerRender.Script

/-- What code can refer to. -/
structure Scope where
  /-- The literals around it, the nearest first. -/
  outer : List Nat
  /-- The places where variables are, the innermost first. -/
  environments : List Nat
  /-- Whether a change that is not allowed throws. -/
  isStrict : Bool

namespace Scope

/-- The scope of a script. -/
def outermost : Scope :=
  ⟨[], [0], false⟩

/-- Inside a literal. -/
def inside (scope : Scope) (id : Nat) : Scope :=
  { scope with outer := id :: scope.outer }

/-- With more variables. -/
def within (scope : Scope) (environment : Nat) : Scope :=
  { scope with environments := environment :: scope.environments }

end Scope

/-- Where a name leads. -/
inductive Holder where
  | environment (place : Nat)
  | object (id : Nat)

namespace Run

/-! ## Variables -/

def variableIn? (environment : Nat) (name : String) : Run (Option Variable) := do
  match (← get).environments[environment]? with
  | some (.named entries) => return entries.find? fun entry => entry.name == name
  | _ => return none

/-- The innermost place that has a name. -/
def holderWithin? (name : String) : List Nat → Run (Option Holder)
  | [] => do
    if ← hasProperty globalId (.ofString name) then return some (.object globalId) else return none
  | environment :: rest => do
    match (← get).environments[environment]? with
    | some (.named entries) =>
      if entries.any fun entry => entry.name == name then return some (.environment environment)
      else holderWithin? name rest
    | some (.properties id) =>
      if ← hasProperty id (.ofString name) then return some (.object id)
      else holderWithin? name rest
    | none => holderWithin? name rest

def tooEarly : NativeError :=
  ⟨"ReferenceError", "access of uninitialized binding"⟩

def readHolder (name : String) : Holder → Run Value
  | .environment environment => do
    match (← variableIn? environment name).bind Variable.value with
    | some value => return value
    | none => throwNative tooEarly
  | .object id => read id (.ofString name)

/-- The value of a variable, if there is one. -/
def readVariable? (name : String) (scope : Scope) : Run (Option Value) := do
  match ← holderWithin? name scope.environments with
  | some holder => return some (← readHolder name holder)
  | none => return none

def readVariable (name : String) (scope : Scope) : Run Value := do
  match ← readVariable? name scope with
  | some value => return value
  | none => throwNative (.referenceError name)

def immutable (name : String) : NativeError :=
  .typeError ("cannot mutate an immutable binding '" ++ name ++ "'")

/-- Gives a variable a value. A name that leads nowhere becomes a global. -/
def writeVariable (name : String) (value : Value) (scope : Scope) : Run Unit := do
  let writeGlobal (id : Nat) : Run Unit := do
    if !(← writeTo id (.ofString name) value (.object id)) && scope.isStrict then
      throwType ("cannot set non-writable property: " ++ name)
  match ← holderWithin? name scope.environments with
  | some (.environment environment) =>
    match ← variableIn? environment name with
    | some entry =>
      if entry.value.isNone then throwNative tooEarly
      if entry.isConstant then throwNative (immutable name)
      initialise environment name value
    | none => return ()
  | some (.object id) => writeGlobal id
  | none => if scope.isStrict then throwNative (.referenceError name) else writeGlobal globalId

/-- Deletes a variable; only properties can go. -/
def deleteVariable (name : String) (scope : Scope) : Run Bool := do
  match ← holderWithin? name scope.environments with
  | some (.environment _) => return false
  | some (.object id) => delete id (.ofString name)
  | none => return true

/-! ## What a function has from its call -/

/-- The innermost variable under a word that is no name, and its environment. -/
def findWord? (word : String) : List Nat → Run (Option (Nat × Variable))
  | [] => return none
  | environment :: rest => do
    match ← variableIn? environment word with
    | some entry => return some (environment, entry)
    | none => findWord? word rest

def missingParent : NativeError :=
  ⟨"ReferenceError", "Must call super constructor in derived class before accessing 'this' or "
    ++ "returning from derived constructor"⟩

def readThis (scope : Scope) : Run Value := do
  match ← findWord? "this" scope.environments with
  | some (_, entry) =>
    match entry.value with
    | some value => return value
    | none => throwNative missingParent
  | none => return .object globalId

def readWord (word : String) (scope : Scope) : Run Value := do
  return ((← findWord? word scope.environments).bind (·.2.value)).getD .undefined

/-- What the object inherits from whose method is running. -/
def parentOfHome (scope : Scope) : Run Value := do
  match ← readWord "super" scope with
  | .object home => return ((← parentOf home).map Value.object).getD .null
  | _ => return .null

/-- Gives `this` the value that the constructor of a parent has made. -/
def takeThis (value : Value) (scope : Scope) : Run Unit := do
  match ← findWord? "this" scope.environments with
  | some (environment, entry) =>
    if entry.value.isSome then throwNative ⟨"ReferenceError", "this is already initialized"⟩
    initialise environment "this" value
  | none => return ()

/-! ## Functions -/

def prototypeProperty (prototype : Nat) : Property :=
  ⟨.stored (.object prototype), true, false, false⟩

/-- The class of a function. -/
def functionClass (manner : Manner) : String :=
  match manner.isAsync, manner.isGenerator with
  | true, true => "AsyncGeneratorFunction"
  | true, false => "AsyncFunction"
  | false, true => "GeneratorFunction"
  | false, false => "Function"

/-- Adds a function with a name to go by. A function that makes objects has a prototype
for them, and a generator one for what its calls give. -/
def addProcedure (procedure : Procedure) (environments : List Nat) (name : List UInt16) :
    Run Value := do
  let manner := procedure.manner
  let id ← addPlace ⟨.function (.closure procedure environments) manner.constructs,
    .ofEntries (functionProperties name procedure.length),
    some (prototypePlace (functionClass manner)), true⟩
  if manner.constructs then
    let prototype ← addPlace
      (.ofKind .plain (.ofEntries [(.name "constructor", .unlisted (.object id))]))
    store id (.name "prototype") (prototypeProperty prototype)
  else if manner.isGenerator then
    let parent := prototypePlace (if manner.isAsync then "AsyncGenerator" else "Generator")
    let prototype ← addPlace ⟨.plain, .empty, some parent, true⟩
    store id (.name "prototype") (prototypeProperty prototype)
  return .object id

/-- A function where it stands. -/
def addClosure (procedure : Procedure) (scope : Scope) : Run Value := do
  let name := Text.units procedure.name
  if procedure.manner.knowsName then
    let environment ← addVariables []
    let function ← addProcedure procedure (environment :: scope.environments) name
    initialise environment procedure.name function
    return function
  else addProcedure procedure scope.environments name

/-! ## Declarations -/

/-- The variables of a block before its first statement. -/
def blockVariables (commands : List Command) : List Variable :=
  (localsOf commands).map fun (name, isConstant) => ⟨name, none, isConstant⟩

def declareFunctions (environment : Nat) (commands : List Command) (scope : Scope) : Run Unit :=
  (functionsOf commands).forM fun procedure => do
    initialise environment procedure.name (← addClosure procedure scope)

/-- The scope of a block, which has variables of its own if it declares some. -/
def enterBlock (commands : List Command) (scope : Scope) : Run Scope := do
  if (localsOf commands).isEmpty && (functionsOf commands).isEmpty then return scope
  let environment ← addVariables (blockVariables commands)
  let inner := scope.within environment
  declareFunctions environment commands inner
  return inner

/-- An environment of its own for the next turn of a loop. -/
def copyEnvironment (environment : Nat) : Run Nat := do
  match (← get).environments[environment]? with
  | some content => addEnvironment content
  | none => return environment

/-- The scope of a turn of a loop, which has the names of its target if they belong to
it. -/
def enterTurn (binding : Option Binding) (target : Target) (scope : Scope) : Run Scope := do
  match binding with
  | some .local => return scope.within (← addVariables (target.names.map (⟨·, none, false⟩)))
  | some .constant => return scope.within (← addVariables (target.names.map (⟨·, none, true⟩)))
  | _ => return scope

/-- The scope of the members of a class, in which its name stands for it. -/
def enterClass (name : String) (scope : Scope) : Run Scope := do
  let own := if name.isEmpty then [] else [⟨name, none, true⟩]
  return { scope.within (← addVariables own) with isStrict := true }

/-- Gives the name of a class its value. -/
def leaveClass (name : String) (id : Nat) (scope : Scope) : Run Unit := do
  match scope.environments with
  | environment :: _ => if !name.isEmpty then initialise environment name (.object id)
  | [] => return ()

/-- Declares what the statements of a function declare, in its environment. -/
def prepareFunction (environment : Nat) (commands : List Command) (scope : Scope) : Run Unit := do
  changeVariables environment fun entries =>
    let known := entries.map Variable.name
    let fresh := (variablesOf commands).eraseDups.filter fun name => !known.contains name
    blockVariables commands ++ fresh.map (fun name => ⟨name, some .undefined, false⟩) ++ entries
  declareFunctions environment commands scope

/-- Whether the global object takes a function under a name. -/
def takesFunction (name : String) : Run Bool := do
  match (← heap).ownProperty? globalId (.ofString name) with
  | some property =>
    return property.configurable
      || (property.stored?.isSome && property.writable && property.enumerable)
  | none => return true

/-- Makes a global of a function that a script declares. -/
def declareGlobalFunction (procedure : Procedure) : Run Unit := do
  let key := Key.ofString procedure.name
  let function ← addClosure procedure .outermost
  let isNew := match (← heap).ownProperty? globalId key with
    | some property => property.configurable
    | none => true
  if isNew then store globalId key ⟨.stored function, true, true, false⟩
  else discard (define globalId key (.ofValue function))

/-- Declares what the statements of a script declare: variables and functions as
globals, and other names beside them. -/
def prepareScript (commands : List Command) : Run Unit := do
  for (name, _) in localsOf commands do
    if (← variableIn? 0 name).isSome then
      throwNative (syntaxError "duplicate lexical declaration")
  for name in variablesOf commands ++ (functionsOf commands).map Procedure.name do
    if (← variableIn? 0 name).isSome then
      throwNative (syntaxError "duplicate lexical declaration")
  for procedure in functionsOf commands do
    if !(← takesFunction procedure.name) then throwType "cannot declare global function"
  (functionsOf commands).forM declareGlobalFunction
  for name in variablesOf commands do
    if ((← heap).ownProperty? globalId (.ofString name)).isNone then
      store globalId (.ofString name) ⟨.stored .undefined, true, true, false⟩
  changeVariables 0 fun entries => blockVariables commands ++ entries

end Run

end ServerRender.Script
