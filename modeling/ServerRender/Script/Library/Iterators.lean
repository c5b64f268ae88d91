import ServerRender.Script.Library.Basic

/-!
# Iterators

What the iterators of arrays, maps, sets, strings and searches give, one item after the
other, and generators. A generator runs as a whole when it is first asked; what it has
given on its way is handed out later.
-/

namespace ServerRender.Script

namespace Run

/-! ## Iterators -/

/-- What an iterator gives of an entry. -/
def aspectOf (aspect : Aspect) (key value : Value) : Run Value := do
  match aspect with
  | .keys => return key
  | .values => return value
  | .entries => addArray [key, value]

/-- The next entry from an index on and the index behind it. -/
def nextEntry? (entries : Array (Option α)) (index : Nat) : Option (α × Nat) :=
  ((entries.toList.drop index).zipIdx index).findSome? fun (entry, place) =>
    entry.map fun entry => (entry, place + 1)

/-- The next item of an iterator and what is then in front of it. -/
def step? : Course → Run (Option (Value × Course))
  | .items id index aspect => do
    if index < (← lengthOf id) then
      let value ← match aspect with
        | .keys => pure .undefined
        | _ => readIndex id index
      return some (← aspectOf aspect (.ofNat index) value, .items id (index + 1) aspect)
    else return none
  | .mapEntries id index aspect => do
    match ← kindOf? (.object id) with
    | some (.map _ entries) =>
      match nextEntry? entries index with
      | some ((key, value), after) =>
        return some (← aspectOf aspect key value, .mapEntries id after aspect)
      | none => return none
    | _ => return none
  | .setItems id index aspect => do
    match ← kindOf? (.object id) with
    | some (.set _ items) =>
      match nextEntry? items index with
      | some (value, after) =>
        return some (← aspectOf aspect value value, .setItems id after aspect)
      | none => return none
    | _ => return none
  | .characters units =>
    match units with
    | [] => return none
    | high :: low :: rest =>
      if Text.isHighSurrogate high && Text.isLowSurrogate low then
        return some (.text [high, low], .characters rest)
      else return some (.text [high], .characters (low :: rest))
    | [unit] => return some (.text [unit], .characters [])
  | .matches results =>
    match results with
    | [] => return none
    | result :: rest => return some (result, .matches rest)
  | _ => return none

/-- The method `next` of the iterators of a class. -/
def stepMethod (className : String) : Native := fun this _ => do
  match this, ← kindOf? this with
  | .object id, some (.iterator course) =>
    if (Kind.iterator course).className != className && !(course matches .finished) then wrongThis
    match ← step? course with
    | some (value, after) =>
      changeKind id (.iterator after)
      addResult value false
    | none =>
      changeKind id (.iterator .finished)
      addResult .undefined true
  | _, _ => wrongThis
where
  wrongThis {α : Type} : Run α := throwType ("\x60this\x60 is not an " ++ className)

/-! ## Generators -/

/-- Runs a function that gives values on its way: those values and how it ended. A
function that gives too many is left off. -/
def gather (procedure : Procedure) (environments : List Nat) :
    Run (List Value × Except Thrown Value) := do
  let list ← addPlace (.array [])
  if let environment :: _ := environments then initialise environment "yield" (.object list)
  let code : Run Value := fun machine => machine.resume procedure environments
  let result : Except Thrown Value ← tryCatch (do return .ok (← code)) fun thrown =>
    if isCatchable thrown then return .error thrown
    else match thrown with
      | .suspended => return .ok .undefined
      | _ => throw thrown
  return (← itemsOf list, result)

/-- Hands out what a generator has given, and then how it ended. -/
def handOut (id : Nat) (values : List Value) (result : Except Thrown Value) : Run Value := do
  match values with
  | value :: rest =>
    changeKind id (.iterator (.given rest result))
    addResult value false
  | [] =>
    changeKind id (.iterator .finished)
    match result with
    | .ok value => addResult value true
    | .error thrown => throw thrown

/-- The place of a generator and what is in front of it. -/
def generatorThis (this : Value) : Run (Nat × Course) := do
  match this, ← kindOf? this with
  | .object id, some (.iterator course) => return (id, course)
  | _, _ => throwType "generator resumed on non generator object"

def generatorStep : Native := fun this _ => do
  let (id, course) ← generatorThis this
  match course with
  | .waiting procedure environments =>
    changeKind id (.iterator .finished)
    let (values, result) ← gather procedure environments
    handOut id values result
  | .given values result => handOut id values result
  | _ => addResult .undefined true

def generatorReturn : Native := fun this arguments => do
  let (id, _) ← generatorThis this
  changeKind id (.iterator .finished)
  addResult (argument arguments 0) true

def generatorThrow : Native := fun this arguments => do
  let (id, _) ← generatorThis this
  changeKind id (.iterator .finished)
  throwValue (argument arguments 0)

/-- A step of what is waited for. -/
def awaitedStep : Native := fun _ _ =>
  addKind (.promise .pending)

/-- The function that gives back what it is called on. -/
def ownIterator (symbol : String) : Member :=
  .keyed symbol ("[Symbol." ++ symbol ++ "]") 0 fun this _ => return this

/-- The prototype of the iterators of a class. -/
def iteratorPrototype (className : String) : Namespace :=
  ⟨className, [.method "next" 0 (stepMethod className), .tag className]⟩

end Run

open Run in
/-- The prototypes of iterators and of functions that make them. -/
def Namespace.iterators : List Namespace :=
  [⟨"Iterator", [ownIterator "iterator"]⟩,
    ⟨"AsyncIterator", [ownIterator "asyncIterator"]⟩,
    iteratorPrototype "Array Iterator",
    iteratorPrototype "Map Iterator",
    iteratorPrototype "Set Iterator",
    iteratorPrototype "String Iterator",
    iteratorPrototype "RegExp String Iterator",
    ⟨"Generator", [
      .tag "Generator",
      .method "next" 1 generatorStep,
      .method "return" 1 generatorReturn,
      .method "throw" 1 generatorThrow]⟩,
    ⟨"AsyncGenerator", [
      .tag "AsyncGenerator",
      .method "next" 1 awaitedStep,
      .method "return" 1 awaitedStep,
      .method "throw" 1 awaitedStep]⟩,
    ⟨"GeneratorFunction", [.tag "GeneratorFunction"]⟩,
    ⟨"AsyncFunction", [.tag "AsyncFunction"]⟩,
    ⟨"AsyncGeneratorFunction", [.tag "AsyncGeneratorFunction"]⟩]

end ServerRender.Script
