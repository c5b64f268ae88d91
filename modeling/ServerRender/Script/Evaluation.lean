import ServerRender.Script.Scope

/-!
# Evaluation of expressions and statements

An expression makes its objects one after the other, each before what stands in it,
so that what stands in it can refer to it. A statement ends with a value or breaks out
of the statements around it.
-/

namespace ServerRender.Script

/-- How a statement ended. -/
inductive Completion where
  /-- With the value of the last expression, if there was one. -/
  | normal (value : Option Value)
  | returned (value : Value)
  | broke (label : Option String) (value : Option Value)
  | continued (label : Option String) (value : Option Value)
  deriving Inhabited

/-- What a loop with some labels makes of how its body ended: the last value, if it goes
on, or how the loop ends. -/
def Completion.turn (labels : List String) (last : Option Value) :
    Completion → Except Completion (Option Value)
  | normal value => .ok (value.or last)
  | returned value => .error (.returned value)
  | broke none value => .error (.normal (some ((value.or last).getD .undefined)))
  | broke (some label) value => .error (.broke (some label) (value.or last))
  | continued none value => .ok (value.or last)
  | continued (some label) value =>
    if labels.contains label then .ok (value.or last)
    else .error (.continued (some label) (value.or last))

/-- With undefined where there was no value. -/
def Completion.orUndefined : Completion → Completion
  | normal value => .normal (some (value.getD .undefined))
  | broke label value => .broke label (some (value.getD .undefined))
  | continued label value => .continued label (some (value.getD .undefined))
  | returned value => .returned value

/-- Whether a connective asks for its right operand. -/
def Connective.goesOn (connective : Connective) (value : Value) : Bool :=
  match connective with
  | both => value.isTruthy
  | either => !value.isTruthy
  | fallback => value.isNullish

/-- Something that can be read and given a value. -/
inductive Place where
  | variable (name : String)
  | member (base : Value) (key : Key)
  /-- A property of what an object inherits from, on behalf of `this`. -/
  | inherited (parent : Value) (key : Key) (this : Value)

namespace Run

/-! ## Places -/

/-- A property of any value; a private one has to be there. -/
def readKey (base : Value) (key : Key) : Run Value := do
  match base with
  | .object id =>
    if key.isHidden && ((← heap).stored? id key).isNone then
      throwType "Cannot read private member from an object whose class did not declare it"
    else readMember base key
  | _ => readMember base key

/-- A property under the key that a value stands for. -/
def readAt (base key : Value) : Run Value := do
  if base.isNullish then throwNative .notAnObject
  readKey base (← keyOf key)

def readPlace (scope : Scope) : Place → Run Value
  | .variable name => readVariable name scope
  | .member base key => readKey base key
  | .inherited parent key this => do
    match parent with
    | .object id => readFrom id key this
    | _ => throwNative .notAnObject

def writePlace (value : Value) (scope : Scope) : Place → Run Unit
  | .variable name => writeVariable name value scope
  | .member base key => do
    if !(← writeMember base key value) && scope.isStrict then
      throwType ("cannot set non-writable property: " ++ (key.text?.getD ""))
  | .inherited parent key this => do
    match parent with
    | .object id => discard (writeTo id key value this)
    | _ => throwNative .notAnObject

/-- Deletes the property under the key that a value stands for. -/
def deleteAt (base key : Value) (scope : Scope) : Run Value := do
  let gone ← delete (← objectOf base) (← keyOf key)
  if !gone && scope.isStrict then throwType "Cannot delete property"
  return .bool gone

/-- A member of the parent of the object whose method is running. -/
def inheritedPlace (key : Value) (scope : Scope) : Run Place := do
  let this ← readThis scope
  return .inherited (← parentOfHome scope) (← keyOf key) this

/-- The function that a name stands for, and its `this`. -/
def calleeAt (name : String) (scope : Scope) : Run (Value × Value) := do
  match ← holderWithin? name scope.environments with
  | some (.object id) =>
    let this := if id = globalId then Value.undefined else .object id
    return (← readHolder name (.object id), this)
  | some holder => return (← readHolder name holder, .undefined)
  | none => throwNative (.referenceError name)

/-- Gives a chain of members up where a value is missing. -/
def orAbsent (value : Value) : Run Value :=
  if value.isNullish then throw .absent else return value

/-- Runs a chain of members that may be given up. -/
def unlessAbsent (chain : Run Value) (default : Value) : Run Value :=
  tryCatch chain fun thrown =>
    match thrown with
    | .absent => return default
    | _ => throw thrown

/-! ## Objects -/

/-- Defines a property of an object that is being made. -/
def putEntry (id : Nat) (key : Key) (property : Property) : Run Unit := do
  if !(← define id key (.ofProperty property)) then throwType "cannot redefine property"

/-- Copies the properties of a value into an object, but for some. -/
def copyProperties (id : Nat) (value : Value) (without : List Key) : Run Unit := do
  if value.isNullish then return ()
  let source ← objectOf value
  for key in ← ownKeys source do
    if !without.contains key then
      match ← ownProperty? source key with
      | some property =>
        if property.enumerable then discard (create id key (← read source key))
      | none => pure ()

/-- One half of an accessor; the other one stays as it is. -/
def putAccessor (id : Nat) (key : Key) (getter setter : Option Value) (enumerable : Bool) :
    Run Unit := do
  let (oldGetter, oldSetter) := match ((← heap).ownProperty? id key).map Property.slot with
    | some (.accessor getter setter) => (getter, setter)
    | _ => (Value.undefined, .undefined)
  store id key ⟨.accessor (getter.getD oldGetter) (setter.getD oldSetter), false, enumerable, true⟩

/-- Adds a method or an accessor to an object. -/
def addMethod (id : Nat) (key : Key) (role : Role) (procedure : Procedure) (scope : Scope)
    (enumerable : Bool) : Run Unit := do
  let make (start : String) : Run Value :=
    addProcedure procedure scope.environments (Text.units start ++ key.functionName)
  match role with
  | .getter => do putAccessor id key (some (← make "get ")) none enumerable
  | .setter => do putAccessor id key none (some (← make "set ")) enumerable
  | _ => do store id key ⟨.stored (← make ""), true, enumerable, true⟩

/-- Adds a method or an accessor to an object that it belongs to. -/
def addOwnMethod (id : Nat) (key : Key) (role : Role) (procedure : Procedure) (scope : Scope) :
    Run Unit := do
  let environment ← addVariables [⟨"super", some (.object id), false⟩]
  addMethod id key role procedure (scope.within environment) true

/-- Gives an object a field of its class. -/
def putField (id : Nat) (key : Key) (value : Value) : Run Unit := do
  if key.isHidden then store id key ⟨.stored value, true, false, false⟩
  else createOrThrow id key value

/-- Adds an entry with a value to an object. Only an object or null can be inherited
from. -/
def addEntry (id : Nat) (key : Key) (role : Role) (value : Value) : Run Unit := do
  match role with
  | .giver => do
    let getter ← addFunction (Text.units "get") 0 (.giver value)
    putEntry id key ⟨.accessor getter .undefined, false, true, true⟩
  | .thrower => do
    let getter ← addFunction (Text.units "get") 0 (.thrower value)
    putEntry id key ⟨.accessor getter .undefined, false, true, true⟩
  | .hidden => putEntry id key (.fixed value)
  | .copied => copyProperties id value []
  | .parent =>
    match value with
    | .object parent => setParent id (some parent)
    | .null => setParent id none
    | _ => return ()
  | _ => putEntry id key (.plain value)

/-- Makes an object inherit from a value. -/
def inheritFrom (object parent : Value) : Run Unit := do
  let wanted ← match parent with
    | .object ancestor => pure (some ancestor)
    | .null => pure none
    | _ => throwType ("expected an object or null, got \x60" ++ (← kindName parent) ++ "\x60")
  let .object id := object | return ()
  if !(← inherit id wanted) then throwType "can't set prototype of this object"

/-- Wraps a value so many times. -/
def wrap (inObjects : Bool) : Nat → Value → Run Value
  | 0, value => return value
  | count + 1, value => do
    let outer ← if inObjects then addPlain [("k", value)] else addArray [value]
    wrap inObjects count outer

/-- The array with the texts of a template, which knows how they are written. -/
def addTexts (texts : List (Option (List UInt16) × List UInt16)) : Run Value := do
  let list (values : List Value) (more : List (Key × Property)) : Object :=
    let items :=
      values.zipIdx.map fun (value, index) => (Key.index index, ⟨.stored value, false, true, false⟩)
    let length : Key × Property := (.name "length", .fixed (.ofNat values.length))
    { Object.ofKind .array (.ofEntries (items ++ length :: more)) with extensible := false }
  let written ← addObject (list (texts.map fun text => .text text.2) [])
  addObject (list (texts.map fun text => (text.1.map Value.text).getD .undefined)
    [(.name "raw", .fixed written)])

/-- The keys that a loop runs over: those that can be listed, of the object and then of
what it inherits from. -/
def listedKeys : Nat → List Key → Nat → Run (List Key)
  | 0, _, _ => return []
  | room + 1, seen, id => do
    let keys := (← ownKeys id).filter fun key => key.text?.isSome && !seen.contains key
    let listed ← keys.filterM fun key => do
      return (((← ownProperty? id key).map Property.enumerable).getD false)
    match ← parentOf id with
    | some parent => return listed ++ (← listedKeys room (keys ++ seen) parent)
    | none => return listed

/-! ## Generators -/

/-- How many values a generator may give. -/
def maxYields : Nat := 10000

/-- Notes what a generator gives on its way. -/
def give (value : Value) (scope : Scope) : Run Unit := do
  match ← readWord "yield" scope with
  | .object list =>
    let count ← lengthOf list
    if maxYields ≤ count then throw .suspended
    discard (create list (.ofNat count) value)
  | _ => return ()

/-! ## Classes -/

/-- What the prototype of a class and the class itself inherit from. -/
def classParents (parent : Value) : Run (Option Nat × Option Nat) := do
  match parent with
  | .null => return (none, some (prototypePlace "Function"))
  | .object id =>
    if !(← heap).constructs parent then throwType "superclass must be a constructor"
    match ← read id (.name "prototype") with
    | .object prototype => return (some prototype, some id)
    | .null => return (none, some id)
    | _ => throwType "superclass prototype must be an object or null"
  | _ => throwType "superclass must be a constructor"

/-- Adds a class without members: the place of the class, and that of its prototype. -/
def addClass (name : String) (maker : Procedure) (isDerived : Bool)
    (parents : Option Nat × Option Nat) (scope : Scope) : Run (Nat × Nat) := do
  let prototype ← addPlace ⟨.plain, .empty, parents.1, true⟩
  let environment ← addVariables [⟨"super", some (.object prototype), false⟩]
  let id ← addPlace ⟨.function (.maker maker (environment :: scope.environments) isDerived []) true,
    .ofEntries (functionProperties (Text.units name) maker.length
      ++ [(.name "prototype", .fixed (.object prototype))]), parents.2, true⟩
  store prototype (.name "constructor") (.unlisted (.object id))
  return (id, prototype)

/-- The scopes of the members of objects and of those of the class itself. -/
def classScopes (id prototype : Nat) (scope : Scope) : Run (Scope × Scope) := do
  let ofObjects ← addVariables [⟨"super", some (.object prototype), false⟩]
  let ofClass ← addVariables
    [⟨"super", some (.object id), false⟩, ⟨"this", some (.object id), false⟩]
  return (scope.within ofObjects, scope.within ofClass)

/-- Gives a class what its constructor puts into every object. -/
def setFields (id : Nat) (fields : List (Role × Key × Expression)) : Run Unit :=
  changeObject id fun object =>
    match object.kind with
    | .function (.maker maker environments derived _) constructs =>
      { object with kind := .function (.maker maker environments derived fields) constructs }
    | _ => object

/-! ## Evaluation -/

mutual

def evaluate : Expression → Scope → Run Value
  | .undefined, _ => return .undefined
  | .null, _ => return .null
  | .bool value, _ => return .bool value
  | .number value, _ => return .number value
  | .bigint value, _ => return .bigint value
  | .text units, _ => return .text units
  | .symbol description, _ => return .symbol (← addSymbol (some (Text.units description)))
  | .pattern body flags, _ =>
    addObject (.ofKind (.regexp body flags)
      (.ofEntries [(.name "lastIndex", ⟨.stored (.ofNat 0), true, false, false⟩)]))
  | .template texts values, scope => do
    let parts ← evaluateArguments values scope
    let written ← parts.mapM textOf
    let rec join : List (List UInt16) → List (List UInt16) → List UInt16
      | text :: texts, part :: parts => text ++ part ++ join texts parts
      | texts, _ => texts.flatten
    return .text (join texts written)
  | .tagged tag texts values, scope => do
    let (function, this) ← match tag with
      | .member base key => do
        let object ← evaluate base scope
        pure (← readAt object (← evaluate key scope), object)
      | .identifier name => calleeAt name scope
      | other => do pure (← evaluate other scope, .undefined)
    let list ← addTexts texts
    apply function this (list :: (← evaluateArguments values scope))
  | .hole, _ => return .undefined
  | .spread items, scope => evaluate items scope
  | .array items, scope => do
    let id ← addPlace (.ofKind .array (.ofEntries [Object.lengthProperty 0]))
    let values ← evaluateItems items (scope.inside id)
    changeObject id fun _ => .array values
    return .object id
  | .holes count, _ => do
    if UInt32.size ≤ count then throwNative badLength else addObject (.holes count)
  | .object entries, scope => do
    let id ← addPlace (.ofKind .plain .empty)
    evaluateEntries entries id (scope.inside id)
    return .object id
  | .inheriting object parent, scope => do
    let value ← evaluate object scope
    inheritFrom value (← evaluate parent scope)
    return value
  | .extended object entries, scope => do
    let value ← evaluate object scope
    match value with
    | .object id => evaluateEntries entries id (scope.inside id)
    | _ => pure ()
    return value
  | .enclosing up, scope => return (scope.outer[up]?.map Value.object).getD .undefined
  | .shared name value, scope => do
    match (← get).shared.lookup name with
    | some known => return known
    | none =>
      let fresh ← evaluate value scope
      modify fun realm => { realm with shared := (name, fresh) :: realm.shared }
      return fresh
  | .apart value, scope => do
    modify fun realm => { realm with shared := [] }
    evaluate value { scope with outer := [] }
  | .nested count inObjects value, scope => do wrap inObjects count (← evaluate value scope)
  | .this, scope => readThis scope
  | .newTarget, scope => readWord "new" scope
  | .identifier name, scope => readVariable name scope
  | .member base key, scope => do
    let object ← evaluate base scope
    readAt object (← evaluate key scope)
  | .secret name, _ => return .symbol (.hidden name)
  | .superMember key, scope => do readPlace scope (← inheritedPlace (← evaluate key scope) scope)
  | .call callee arguments, scope => do
    let (function, this) ← match callee with
      | .member base key => do
        let object ← evaluate base scope
        pure (← readAt object (← evaluate key scope), object)
      | .parenthesized (.member base key) => do
        let object ← evaluate base scope
        pure (← readAt object (← evaluate key scope), object)
      | .link (.member base key) => do
        let object ← evaluate base scope
        pure (← orAbsent (← readAt object (← evaluate key scope)), object)
      | .superMember key => do
        let place ← inheritedPlace (← evaluate key scope) scope
        pure (← readPlace scope place, ← readThis scope)
      | .identifier name => calleeAt name scope
      | other => do pure (← evaluate other scope, .undefined)
    apply function this (← evaluateArguments arguments scope)
  | .superCall arguments, scope => do
    let parent ← match ← readWord "function" scope with
      | .object id => pure (((← parentOf id).map Value.object).getD .null)
      | _ => pure .null
    let values ← evaluateArguments arguments scope
    if !(← heap).constructs parent then throwType "super constructor object must be constructor"
    let this ← construct parent values (← readWord "new" scope)
    takeThis this scope
    match ← readWord "function" scope, this with
    | .object function, .object id => furnish function id
    | _, _ => pure ()
    return this
  | .chain links, scope => unlessAbsent (evaluate links scope) .undefined
  | .link base, scope => do orAbsent (← evaluate base scope)
  | .construct callee arguments, scope => do
    let function ← evaluate callee scope
    let values ← evaluateArguments arguments scope
    construct function values function
  | .unary .kind (.identifier name), scope => do
    return .ofString (← kindName ((← readVariable? name scope).getD .undefined))
  | .unary .delete operand, scope =>
    match operand with
    | .identifier name => do return .bool (← deleteVariable name scope)
    | .parenthesized (.identifier name) => do return .bool (← deleteVariable name scope)
    | .member base key => do
      let object ← evaluate base scope
      deleteAt object (← evaluate key scope) scope
    | .parenthesized (.member base key) => do
      let object ← evaluate base scope
      deleteAt object (← evaluate key scope) scope
    | .chain (.member base key) =>
      unlessAbsent (do
        let object ← evaluate base scope
        deleteAt object (← evaluate key scope) scope) (.bool true)
    | .superMember _ => throwNative ⟨"ReferenceError", "cannot delete a property of 'super'"⟩
    | other => do
      let _ ← evaluate other scope
      return .bool true
  | .unary operator operand, scope => do operateOn operator (← evaluate operand scope)
  | .binary operator left right, scope => do
    let first ← evaluate left scope
    let second ← evaluate right scope
    operate operator first second
  | .connect connective left right, scope => do
    let first ← evaluate left scope
    if connective.goesOn first then evaluate right scope else return first
  | .choose condition yes no, scope => do
    if (← evaluate condition scope).isTruthy then evaluate yes scope else evaluate no scope
  | .assign (.place expression) value, scope => do
    let place ← evaluatePlace expression scope
    let result ← evaluate value scope
    writePlace result scope place
    return result
  | .assign target value, scope => do
    let result ← evaluate value scope
    bind target result none scope
    return result
  | .compound operator expression value, scope => do
    let place ← evaluatePlace expression scope
    let old ← readPlace scope place
    let result ← operate operator old (← evaluate value scope)
    writePlace result scope place
    return result
  | .connectAssign connective expression value, scope => do
    let place ← evaluatePlace expression scope
    let old ← readPlace scope place
    if connective.goesOn old then
      let result ← evaluate value scope
      writePlace result scope place
      return result
    else return old
  | .step isAfterwards operator expression, scope => do
    let place ← evaluatePlace expression scope
    let old ← numericOf (← readPlace scope place)
    let one := match old with
      | .bigint _ => Value.bigint 1
      | _ => .ofNat 1
    let result ← operate operator old one
    writePlace result scope place
    return if isAfterwards then old else result
  | .closure procedure, scope => addClosure procedure scope
  | .classDefinition blueprint, scope => evaluateClass blueprint scope
  | .await value, scope => do
    let _ ← evaluate value scope
    throw .suspended
  | .yield all value, scope => do
    let result ← evaluate value scope
    if all then forEachItem result fun item => give item scope else give result scope
    return .undefined
  | .importModule name, scope => do
    let value ← evaluate name scope
    let _ ← catching (textOf value) fun _ => return []
    addKind (.promise .pending)
  | .parenthesized inner, scope => evaluate inner scope

def evaluatePlace : Expression → Scope → Run Place
  | .identifier name, _ => return .variable name
  | .member base key, scope => do
    let object ← evaluate base scope
    let value ← evaluate key scope
    if object.isNullish then throwNative .notAnObject
    return .member object (← keyOf value)
  | .superMember key, scope => do inheritedPlace (← evaluate key scope) scope
  | _, _ => return .variable ""

/-- The values of array items, `none` for a hole. -/
def evaluateItems : List Expression → Scope → Run (List (Option Value))
  | [], _ => return []
  | item :: rest, scope => do
    let first ← match item with
      | .hole => pure [none]
      | .spread items => do return (← listOf (← evaluate items scope)).map some
      | other => do pure [some (← evaluate other scope)]
    return first ++ (← evaluateItems rest scope)

/-- The values of arguments. -/
def evaluateArguments : List Expression → Scope → Run (List Value)
  | [], _ => return []
  | argument :: rest, scope => do
    let first ← match argument with
      | .spread items => do listOf (← evaluate items scope)
      | other => do pure [← evaluate other scope]
    return first ++ (← evaluateArguments rest scope)

/-- Puts the entries of a literal into an object. -/
def evaluateEntries : List Entry → Nat → Scope → Run Unit
  | [], _, _ => return ()
  | entry :: rest, id, scope => do
    evaluateEntry entry id scope
    evaluateEntries rest id scope

def evaluateEntry : Entry → Nat → Scope → Run Unit
  | .mk _ role key value, id, scope => do
    let place ← keyOf (← evaluate key scope)
    match role, value with
    | .value, .closure procedure =>
      let name := if procedure.name.isEmpty then place.functionName else Text.units procedure.name
      if procedure.manner.knowsName then addEntry id place role (← addClosure procedure scope)
      else addEntry id place role (← addProcedure procedure scope.environments name)
    | .method, .closure procedure => addOwnMethod id place role procedure scope
    | .getter, .closure procedure => addOwnMethod id place role procedure scope
    | .setter, .closure procedure => addOwnMethod id place role procedure scope
    | _, other => addEntry id place role (← evaluate other scope)

def evaluateClass : Blueprint → Scope → Run Value
  | .base name maker members, scope => do
    let inner ← enterClass name scope
    let (id, prototype) ← addClass name maker false
      (some (prototypePlace "Object"), some (prototypePlace "Function")) inner
    let (ofObjects, ofClass) ← classScopes id prototype inner
    let (fields, keys) ← evaluateMembers members id prototype ofObjects ofClass
    setFields id fields
    leaveClass name id inner
    runStatics members keys id ofClass
    return .object id
  | .derived name parent maker members, scope => do
    let inner ← enterClass name scope
    let parents ← classParents (← evaluate parent inner)
    let (id, prototype) ← addClass name maker true parents inner
    let (ofObjects, ofClass) ← classScopes id prototype inner
    let (fields, keys) ← evaluateMembers members id prototype ofObjects ofClass
    setFields id fields
    leaveClass name id inner
    runStatics members keys id ofClass
    return .object id

/-- Adds the methods of a class. The answer has the fields of its objects and the keys
of its own fields, for later. -/
def evaluateMembers : List Entry → Nat → Nat → Scope → Scope →
    Run (List (Role × Key × Expression) × List Key)
  | [], _, _, _, _ => return ([], [])
  | .mk ofClass role key value :: rest, id, prototype, ofObjects, ofClasses => do
    let scope := if ofClass then ofClasses else ofObjects
    let place ← keyOf (← evaluate key scope)
    let (fields, keys) ← match role, value with
      | .value, _ => pure (if ofClass then ([], [place]) else ([(role, place, value)], []))
      | .block, _ => pure ([], [])
      | _, .closure procedure => do
        addMethod (if ofClass then id else prototype) place role procedure scope false
        pure ([], [])
      | _, _ => pure ([], [])
    let (moreFields, moreKeys) ← evaluateMembers rest id prototype ofObjects ofClasses
    return (fields ++ moreFields, keys ++ moreKeys)

/-- Gives a class its own fields and runs its blocks. -/
def runStatics : List Entry → List Key → Nat → Scope → Run Unit
  | [], _, _, _ => return ()
  | .mk ofClass role _ value :: rest, keys, id, scope => do
    match ofClass, role, keys with
    | true, .value, key :: others => do
      let result ← evaluate value scope
      putField id key result
      runStatics rest others id scope
    | true, .block, _ => do
      let function ← evaluate value scope
      let _ ← apply function (.object id) []
      runStatics rest keys id scope
    | _, _, _ => runStatics rest keys id scope

/-- Gives a target a value: variables of a block have had none before. -/
def bind : Target → Value → Option Binding → Scope → Run Unit
  | .place (.identifier name), value, binding, scope => do
    match binding, scope.environments with
    | some .variable, _ => writeVariable name value scope
    | some _, environment :: _ => initialise environment name value
    | _, _ => writeVariable name value scope
  | .place expression, value, _, scope => do
    writePlace value scope (← evaluatePlace expression scope)
  | .default target other, value, binding, scope => do
    if value = .undefined then bind target (← evaluate other scope) binding scope
    else bind target value binding scope
  | .list items, value, binding, scope => do
    let cursor ← cursorOf value
    if !(← orAbandon cursor (bindItems items cursor false binding scope)) then close cursor
  | .record fields, value, binding, scope => do
    match value with
    | .null => throwType "Cannot destructure 'null' value"
    | .undefined => throwType "Cannot destructure 'undefined' value"
    | _ => bindFields fields value [] binding scope
  | .field _ target, value, binding, scope => bind target value binding scope
  | .rest target, value, binding, scope => bind target value binding scope
  | .gap, _, _, _ => return ()

/-- Gives targets the items of an iterator; the answer says whether it has ended. -/
def bindItems : List Target → Cursor → Bool → Option Binding → Scope → Run Bool
  | [], _, isDone, _, _ => return isDone
  | .rest target :: _, cursor, isDone, binding, scope => do
    let items ← if isDone then pure [] else restOf cursor
    bind target (← addArray items) binding scope
    return true
  | target :: rest, cursor, isDone, binding, scope => do
    let item? ← if isDone then pure none else advance cursor
    bind target (item?.getD .undefined) binding scope
    bindItems rest cursor (isDone || item?.isNone) binding scope

/-- Gives targets the properties of a value; the last one may take those that no other
has taken. -/
def bindFields : List Target → Value → List Key → Option Binding → Scope → Run Unit
  | [], _, _, _, _ => return ()
  | .rest target :: _, value, taken, binding, scope => do
    let id ← addPlace (.ofKind .plain .empty)
    copyProperties id value taken
    bind target (.object id) binding scope
  | .field key target :: rest, value, taken, binding, scope => do
    let place ← keyOf (← evaluate key scope)
    bind target (← readMember value place) binding scope
    bindFields rest value (place :: taken) binding scope
  | _ :: rest, value, taken, binding, scope => bindFields rest value taken binding scope

/-- Runs a statement that stands behind some labels. -/
def runCommand : Command → Scope → List String → Run Completion
  | .evaluate expression, scope, _ => return .normal (some (← evaluate expression scope))
  | .throws expression, scope, _ => do throwValue (← evaluate expression scope)
  | .fails error, _, _ => throwNative error
  | .returns expression, scope, _ => return .returned (← evaluate expression scope)
  | .declare binding target value, scope, _ => do
    bind target (← evaluate value scope) (some binding) scope
    return .normal none
  | .mention _, _, _ => return .normal none
  | .define _, _, _ => return .normal none
  | .defineClass blueprint, scope, _ => do
    let value ← evaluateClass blueprint scope
    match scope.environments with
    | environment :: _ => initialise environment blueprint.name value
    | [] => pure ()
    return .normal none
  | .block commands, scope, _ => do runCommands commands (← enterBlock commands scope) none
  | .choose condition yes no, scope, _ => do
    let ended ← if (← evaluate condition scope).isTruthy then runCommands yes scope none
      else runCommands no scope none
    return ended.orUndefined
  | .whileLoop condition body, scope, labels =>
    loop (fun last => do
      if !(← evaluate condition scope).isTruthy then
        return .inr (.normal (some (last.getD .undefined)))
      match (← runCommands body scope none).turn labels last with
      | .error ended => return .inr ended
      | .ok last => return .inl last) none
  | .doWhileLoop body condition, scope, labels =>
    loop (fun last => do
      match (← runCommands body scope none).turn labels last with
      | .error ended => return .inr ended
      | .ok last =>
        if (← evaluate condition scope).isTruthy then return .inl last
        else return .inr (.normal (some (last.getD .undefined)))) none
  | .forLoop start condition step body, scope, labels => do
    let locals := blockVariables start
    let first ← if locals.isEmpty then pure 0 else addVariables locals
    let withLocals (environment : Nat) : Scope :=
      if locals.isEmpty then scope else scope.within environment
    let _ ← runCommands start (withLocals first) none
    loop (fun (environment, last) => do
      let inner := withLocals environment
      if !(← evaluate condition inner).isTruthy then
        return .inr (Completion.normal (some (last.getD .undefined)))
      match (← runCommands body inner none).turn labels last with
      | .error ended => return .inr ended
      | .ok last =>
        let following ← if locals.isEmpty then pure environment else copyEnvironment environment
        let _ ← evaluate step (withLocals following)
        return .inl (following, last)) (first, none)
  | .forEach range binding target subject body, scope, labels => do
    let value ← evaluate subject scope
    let turn (last : Option Value) (item : Value) : Run (Sum (Option Value) Completion) := do
      let inner ← enterTurn binding target scope
      bind target item binding inner
      match (← runCommands body inner none).turn labels last with
      | .error ended => return .inr ended
      | .ok last => return .inl last
    let finish (last : Option Value) : Completion := .normal (some (last.getD .undefined))
    match range with
    | .items => searchFrom (← cursorOf value) turn finish none
    | .awaited => throw .suspended
    | .keys =>
      if value.isNullish then return finish none
      let id ← objectOf value
      let keys ← listedKeys (← chainRoom) [] id
      loop (fun (keys, last) => do
        match keys with
        | [] => return .inr (finish last)
        | key :: rest =>
          if ← hasProperty id key then
            match ← turn last key.value with
            | .inr ended => return .inr ended
            | .inl last => return .inl (rest, last)
          else return .inl (rest, last)) (keys, none)
  | .select value clauses, scope, _ => do
    let wanted ← evaluate value scope
    let inner ← enterBlock (commandsOf clauses) scope
    match ← findClause clauses wanted inner 0 with
    | some index =>
      match ← runClauses clauses index inner none with
      | .broke none value => return .normal (some (value.getD .undefined))
      | ended => return ended.orUndefined
    | none => return .normal (some .undefined)
  | .breaks label, _, _ => return .broke label none
  | .continues label, _, _ => return .continued label none
  | .labelled label body, scope, labels => do
    match ← runLabelled body scope (label :: labels) with
    | .broke (some other) value =>
      return if other = label then .normal value else .broke (some other) value
    | ended => return ended
  | .attempt body target handler, scope, _ =>
    catching (do return (← runCommands body (← enterBlock body scope) none).orUndefined) fun thrown => do
      let environment ← addVariables (target.names.map fun name => ⟨name, none, false⟩)
      let inner := scope.within environment
      bind target (← caught thrown) (some .local) inner
      return (← runCommands handler (← enterBlock handler inner) none).orUndefined
  | .finally body finish, scope, _ => do
    let result : Except Thrown Completion ←
      tryCatch (do return .ok (← runCommands body (← enterBlock body scope) none)) fun thrown =>
        if isCatchable thrown then return .error thrown else throw thrown
    match ← runCommands finish (← enterBlock finish scope) none with
    | .normal _ =>
      match result with
      | .ok ended => return ended.orUndefined
      | .error thrown => throw thrown
    | ended => return ended
  | .inside object body, scope, _ => do
    let id ← objectOf (← evaluate object scope)
    runCommands body (scope.within (← addEnvironment (.properties id))) none

/-- Runs statements one after the other until one ends abruptly. -/
def runCommands : List Command → Scope → Option Value → Run Completion
  | [], _, last => return .normal last
  | command :: rest, scope, last => do
    match ← runCommand command scope [] with
    | .normal value => runCommands rest scope (value.or last)
    | .broke label value => return .broke label (value.or last)
    | .continued label value => return .continued label (value.or last)
    | ended => return ended

/-- Runs the statement behind a label. -/
def runLabelled : List Command → Scope → List String → Run Completion
  | [], _, _ => return .normal none
  | command :: _, scope, labels => runCommand command scope labels

/-- The clause of a selection that is for a value. -/
def findClause : List Clause → Value → Scope → Nat → Run (Option Nat)
  | [], _, _, _ => return none
  | .case value _ :: rest, wanted, scope, index => do
    if wanted.isIdentical (← evaluate value scope) then return some index
    else findClause rest wanted scope (index + 1)
  | .otherwise _ :: rest, wanted, scope, index => do
    return (← findClause rest wanted scope (index + 1)).or (some index)

/-- Runs the clauses of a selection behind so many others. -/
def runClauses : List Clause → Nat → Scope → Option Value → Run Completion
  | [], _, _, last => return .normal last
  | _ :: rest, count + 1, scope, last => runClauses rest count scope last
  | clause :: rest, 0, scope, last => do
    match ← runClause clause scope last with
    | .normal value => runClauses rest 0 scope value
    | ended => return ended

def runClause : Clause → Scope → Option Value → Run Completion
  | .case _ body, scope, last => runCommands body scope last
  | .otherwise body, scope, last => runCommands body scope last

end

end Run

end ServerRender.Script
