import ServerRender.Script.Display
import ServerRender.Script.Evaluation
import ServerRender.Script.Library
import ServerRender.Script.Source

/-!
# What scripts do

Calls of functions, as deep as the engine lets them go, and scripts as a whole. Every
call goes to a machine that has room for fewer calls than the one that makes it.
-/

namespace ServerRender.Script

/-- The arguments of a console call as one line: strings as they are, other values in
display form. -/
def Heap.consoleLine (heap : Heap) (arguments : List Value) : String :=
  " ".intercalate (arguments.map fun
    | .text units => Text.ofUnits units
    | value => heap.display value)

namespace Run

def writeLog (level : Log.Level) (arguments : List Value) : Run Unit :=
  modify fun realm =>
    { realm with log := .guest level (realm.heap.consoleLine arguments) :: realm.log }

/-! ## Functions with statements -/

/-- Whether parameters are names alone. -/
def arePlain (parameters : List Target) : Bool :=
  parameters.all fun
    | .place _ => true
    | _ => false

/-- The list of its arguments that a function has. It names the function, if that is not
forbidden. -/
def addArguments (procedure : Procedure) (function : Value) (arguments : List Value) :
    Run Value := do
  let items := arguments.zipIdx.map fun (value, index) => (Key.index index, Property.plain value)
  let iterator ← read (prototypePlace "Array") (.name "values")
  let known ← if !procedure.manner.isStrict && arePlain procedure.parameters then
      pure (Property.unlisted function)
    else do
      let caller? := (← heap).ownProperty? (prototypePlace "Function") (.name "caller")
      let refusal := (caller?.map Property.slot).getD (.stored .undefined)
      pure ⟨refusal, false, false, false⟩
  let properties := items
    ++ [(.name "length", .unlisted (.ofNat arguments.length)), (.name "callee", known),
      (.standard "iterator", .unlisted iterator)]
  addObject (.ofKind .arguments (.ofEntries properties))

/-- Gives parameters the arguments, the first of which has an index. -/
def bindParameters (arguments : List Value) (scope : Scope) : Nat → List Target → Run Unit
  | _, [] => return ()
  | index, .rest target :: _ => do
    bind target (← addArray (arguments.drop index)) (some .local) scope
  | index, target :: rest => do
    bind target (arguments.getD index .undefined) (some .local) scope
    bindParameters arguments scope (index + 1) rest

/-- The variables that a call has under words that are no names. -/
def callWords (manner : Manner) (function : Value) (this : Option Value) (target : Value) :
    List Variable :=
  if manner.isArrow then []
  else [⟨"this", this, true⟩, ⟨"new", some target, true⟩, ⟨"function", some function, true⟩]

/-- The scope of a call, in which parameters have their values. -/
def enterCall (procedure : Procedure) (environments : List Nat) (function : Value)
    (this : Option Value) (target : Value) (arguments : List Value) : Run Scope := do
  let manner := procedure.manner
  let names := namesOfAll procedure.parameters
  let own := names.eraseDups.map fun name => (⟨name, none, false⟩ : Variable)
  let list ← if manner.isArrow || names.contains "arguments" then pure []
    else do pure [⟨"arguments", some (← addArguments procedure function arguments), false⟩]
  let yields := if manner.isGenerator then [⟨"yield", none, false⟩] else []
  let environment ← addVariables (own ++ list ++ yields ++ callWords manner function this target)
  let scope : Scope := ⟨[], environment :: environments, manner.isStrict⟩
  bindParameters arguments scope 0 procedure.parameters
  return scope

/-- Runs the statements of a function; the value is what it returns. -/
def runBody (procedure : Procedure) (scope : Scope) : Run (Option Value) := do
  if let environment :: _ :=
    scope.environments then prepareFunction environment procedure.body scope
  match ← runCommands procedure.body scope none with
  | .returned value => return some value
  | _ => return none

/-- The `this` of a function that takes objects alone, if it is not strict. -/
def ownThis (manner : Manner) (this : Value) : Run Value := do
  if manner.isStrict || manner.isArrow then return this
  else if this.isNullish then return .object globalId
  else return .object (← objectOf this)

/-- A generator that has not begun. -/
def addGenerator (procedure : Procedure) (function : Value) (scope : Scope) : Run Value := do
  let default := prototypePlace (if procedure.manner.isAsync then "AsyncGenerator" else "Generator")
  let prototype ← match ← readName function "prototype" with
    | .object id => pure id
    | _ => pure default
  addObject ⟨.iterator (.waiting procedure scope.environments), .empty, some prototype, true⟩

/-- What becomes of code that is waited for. -/
def promiseOf (code : Run Value) : Run Value := do
  let settlement ← tryCatch (do return Settlement.fulfilled (← code)) fun thrown => do
    if isCatchable thrown then return .rejected (← caught thrown)
    else match thrown with
      | .suspended => return .pending
      | _ => throw thrown
  addPromise settlement

/-- Calls a function with statements. -/
def callProcedure (procedure : Procedure) (environments : List Nat) (function this : Value)
    (arguments : List Value) : Run Value := do
  let manner := procedure.manner
  let enter : Run Scope := do
    enterCall procedure environments function (some (← ownThis manner this)) .undefined arguments
  if manner.isGenerator then addGenerator procedure function (← enter)
  else
    let code : Run Value := do return (← runBody procedure (← enter)).getD .undefined
    if manner.isAsync then promiseOf code else code

/-- What a constructor has made: the object that it returns, or else its `this`. -/
def madeObject (isDerived : Bool) (result : Option Value) (scope : Scope) : Run Value := do
  match result with
  | some (.object id) => return .object id
  | some value =>
    if isDerived && value != .undefined then
      throwType "derived constructor can only return an Object or undefined"
    readThis scope
  | none => readThis scope

/-- Makes an object with a function or a class. -/
def constructProcedure (procedure : Procedure) (environments : List Nat) (function target : Value)
    (arguments : List Value) (isDerived hasFields : Bool) : Run Value := do
  let this ← if isDerived then pure none
    else do
      let id ← addFor target "Object" (.ofKind .plain .empty)
      if hasFields then
        if let .object owner := function then furnish owner id
      pure (some (Value.object id))
  let scope ← enterCall procedure environments function this target arguments
  madeObject isDerived (← runBody procedure scope) scope

/-- Gives an object the fields of a class, one after the other. -/
def furnishWith (environments : List Nat) (id : Nat) : List (Role × Key × Expression) → Run Unit
  | [] => return ()
  | (_, key, value) :: rest => do
    let environment ← addVariables [⟨"this", some (.object id), true⟩]
    let scope : Scope := ⟨[], environment :: environments, true⟩
    putField id key (← evaluate value scope)
    furnishWith environments id rest

/-! ## Scripts -/

/-- Whether statements start with the words that forbid what is not allowed to pass. -/
def startsStrict (commands : List Command) : Bool :=
  match commands with
  | .evaluate (.text units) :: rest => units == Text.units "use strict" || startsStrict rest
  | _ => false

/-- Runs the statements of a script; its value is that of the last statement that has
one. -/
def runScript (commands : List Command) : Run Value := do
  let scope := { Scope.outermost with isStrict := startsStrict commands }
  prepareScript commands
  match ← runCommands commands scope none with
  | .normal value => return value.getD .undefined
  | _ => return .undefined

def runProgram : Program → Run Value
  | .error error => throwNative error
  | .ok commands => runScript commands

/-- The text of a function without a name. -/
def functionSource (parameters body : String) : String :=
  "(function anonymous(" ++ parameters ++ "\n) \x7b\n" ++ body ++ "\n\x7d)"

/-- Makes a function from texts. A fault of the parameters comes before one of the
body. -/
def compileFunction (parameters body : String) : Run Value := do
  match Source.parse 1 (functionSource parameters ""), Source.parse 1 (functionSource "" body) with
  | .error error, _ =>
    throwNative (syntaxError ("failed to parse function parameters: " ++ error.message))
  | _, .error error =>
    throwNative (syntaxError ("failed to parse function body: " ++ error.message))
  | _, _ =>
    match Source.parse 1 (functionSource parameters body) with
    | .ok [.evaluate (.parenthesized expression)] => evaluate expression .outermost
    | .ok [.evaluate expression] => evaluate expression .outermost
    | .ok _ => return .undefined
    | .error error => throwNative error

/-! ## Calls -/

def callProxy (target handler this : Value) (arguments : List Value) : Run Value := do
  if handler.isNullish then throwNative closedProxy
  match ← method? handler (.name "apply") with
  | some trap => apply trap handler [target, this, ← addArray arguments]
  | none => apply target this arguments

def constructByProxy (target handler newTarget : Value) (arguments : List Value) : Run Value := do
  if handler.isNullish then throwNative closedProxy
  match ← method? handler (.name "construct") with
  | some trap =>
    match ← apply trap handler [target, ← addArray arguments, newTarget] with
    | .object id => return .object id
    | _ => throwType "Proxy trap constructor returned non-object value"
  | none => construct target arguments newTarget

/-- What a function does without statements of a script. -/
def callOther (behaviour : Behaviour) (this : Value) (arguments : List Value) : Run Value := do
  match behaviour with
  | .builtin owner name => callLibrary owner name this arguments
  | .log level =>
    writeLog level arguments
    return .undefined
  | .maker _ _ _ _ => throwNative .classCalled
  | .bound target known given => apply (.object target) known (given ++ arguments)
  | .giver value => return value
  | .thrower value => throwValue value
  | .settler promise fulfils => settle promise fulfils (argument arguments 0)
  | .revoker proxy =>
    changeKind proxy (.proxy .null .null)
    return .undefined
  | .closure _ _ => return .undefined

/-- Runs code of a script if there is room for another call. -/
def within (room : Nat) (machine : Nat → Machine) (code : Run α) : Action α :=
  match room with
  | 0 => throw (.native .tooManyCalls)
  | room + 1 => code.run (machine room)

def applyWith (room : Nat) (machine : Nat → Machine) (function this : Value)
    (arguments : List Value) : Action Value := do
  match (← get).heap.kind? function with
  | some (.function (.closure procedure environments) _) =>
    within room machine (callProcedure procedure environments function this arguments)
  | some (.function behaviour _) => (callOther behaviour this arguments).run (machine room)
  | some (.proxy target handler) =>
    if (← get).heap.isFunction function then
      (callProxy target handler this arguments).run (machine room)
    else throw (.native .notCallable)
  | _ => throw (.native .notCallable)

def constructWith (room : Nat) (machine : Nat → Machine) (function : Value) (arguments : List Value)
    (target : Value) : Action Value := do
  let heap := (← get).heap
  if !heap.constructs function then throw (.native .notConstructor)
  match heap.kind? function with
  | some (.function (.closure procedure environments) _) =>
    within room machine
      (constructProcedure procedure environments function target arguments false false)
  | some (.function (.maker procedure environments isDerived _) _) =>
    within room machine
      (constructProcedure procedure environments function target arguments isDerived true)
  | some (.function (.builtin owner _) _) =>
    (constructLibrary owner arguments target).run (machine room)
  | some (.function (.bound whole _ given) _) =>
    let newTarget := if target = function then .object whole else target
    (construct (.object whole) (given ++ arguments) newTarget).run (machine room)
  | some (.proxy inner handler) =>
    (constructByProxy inner handler target arguments).run (machine room)
  | _ => throw (.native .notConstructor)

def furnishFor (owner id : Nat) : Run Unit := do
  match ← kindOf? (.object owner) with
  | some (.function (.maker _ environments _ members) _) => furnishWith environments id members
  | _ => return ()

/-- A machine for so many calls inside each other, and so many calls of functions with
statements among them. -/
def machineWithin : Nat → Nat → Machine
  | 0, _ => ⟨fun _ _ _ => full, fun _ _ _ => full, fun _ _ => full, fun _ _ => full, fun _ => full,
      fun _ _ => full⟩
  | depth + 1, room => {
      apply := applyWith room fun room => machineWithin depth room
      construct := fun function arguments target =>
        constructWith room (fun room => machineWithin depth room) function arguments target
      furnish := fun owner id => (furnishFor owner id).run (machineWithin depth room)
      resume := fun procedure environments => within room (fun room => machineWithin depth room) do
        return (← runBody procedure ⟨[], environments, procedure.manner.isStrict⟩).getD .undefined
      evaluate := fun text => within room (fun room => machineWithin depth room)
        (runProgram (Source.parse 1 text))
      compile :=
        fun parameters body => (compileFunction parameters body).run (machineWithin depth room) }
where
  full {α : Type} : Action α := throw (.native .tooManyCalls)

/-- How many functions with statements may be called inside each other. -/
def maxCalls : Nat := 512

/-- How many functions of all sorts may. -/
def maxDepth : Nat := 2000

/-- The machine of a run that has not called anything. -/
def machine : Machine :=
  machineWithin maxDepth maxCalls

end Run

end ServerRender.Script
