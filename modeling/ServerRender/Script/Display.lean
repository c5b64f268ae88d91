import ServerRender.Script.Heap
import ServerRender.Script.Numeral

/-!
# Display form

How values look in a log. Strings stand in quotes with nothing escaped. An array
shows its items in one line, and arrays in it only their size. Any other object shows
its stored properties one a line, those with names before those with symbols, keys
aligned on the right, and so do the objects and arrays in it.
-/

namespace ServerRender.Script

/-- The display form of a value that is not an object. -/
def displayPrimitive : Value → String
  | .undefined => "undefined"
  | .null => "null"
  | .bool value => toString value
  | .number value => numberText value
  | .bigint value => toString value ++ "n"
  | .text units => "\"" ++ Text.ofUnits units ++ "\""
  | .symbol symbol => Text.ofUnits symbol.text
  | .object _ => ""

def displayKey : Key → String
  | .index n => toString n
  | .text units => Text.ofUnits units
  | .symbol symbol => Text.ofUnits symbol.text

/-- The line of a property. Accessors are not run. -/
def displayProperty (display : Value → String) (width : Nat) (entry : Key × Property) : String :=
  let value := match entry.2.slot with
    | .stored value => display value
    | .accessor _ _ => "Getter & Setter"
  Text.padLeft width (displayKey entry.1) ++ ": " ++ value

namespace Heap

/-- A value among the properties of the objects in `outer`, with keys aligned at a
width. -/
def displayProperties (heap : Heap) : Nat → List Nat → Nat → Value → String
  | room, outer, width, .object id =>
    match room, heap.get? id with
    | room + 1, some object =>
      if outer.contains id then "[Cycle]"
      else
        let lines := object.properties.entries.map
          (displayProperty (heap.displayProperties room (id :: outer) (width + 4)) width)
        "\x7b\n" ++ ",\n".intercalate lines ++ "\n" ++ Text.padLeft (width - 4) "" ++ "\x7d"
    | _, _ => ""
  | _, _, _, value => displayPrimitive value

/-- The display form of an object by its properties alone. -/
def displayObject (heap : Heap) (id : Nat) : String :=
  heap.displayProperties (heap.objects.size + 1) [] 4 (.object id)

/-- A part of an error: a stored string as it is, another value by `display`, and a
replacement where nothing is stored. -/
def displayErrorPart (heap : Heap) (display : Value → String) (id : Nat) (key default : String) :
    String :=
  match (heap.stored? id (.name key)).bind Property.stored? with
  | some (.text units) => Text.ofUnits units
  | some value => display value
  | none => default

/-- Name and message of an error. -/
def displayError (heap : Heap) (display : Value → String) (id : Nat) : String :=
  let name := heap.displayErrorPart display id "name" "<error>"
  let message := heap.displayErrorPart display id "message" ""
  if name.isEmpty then message
  else if message.isEmpty then name
  else name ++ ": " ++ message

/-- Items in one line between brackets. -/
def displayItems (start finish : String) (items : List String) : String :=
  start ++ " " ++ ", ".intercalate items ++ " " ++ finish

/-- A value; with `whole`, arrays, maps and sets show their items. -/
def displayFrom (heap : Heap) : Nat → Bool → Value → String
  | room, whole, .object id =>
    match room, heap.get? id with
    | room + 1, some object =>
      let part := heap.displayFrom room false
      match object.kind with
      | .array =>
        if !whole then "Array(" ++ toString object.length ++ ")"
        else if object.length = 0 then "[]"
        else displayItems "[" "]" ((List.range object.length).map fun index =>
          match (object.properties.get? (.ofNat index)).bind Property.stored? with
          | some value => part value
          | none => "<empty>")
      | .map false entries =>
        let shown := entries.toList.filterMap fun entry => entry
        if whole && !shown.isEmpty then
          displayItems "Map \x7b" "\x7d"
            (shown.map fun (key, value) => part key ++ " → " ++ part value)
        else "Map(" ++ toString shown.length ++ ")"
      | .set false items =>
        let shown := items.toList.filterMap fun item => item
        if whole && !shown.isEmpty then displayItems "Set \x7b" "\x7d" (shown.map part)
        else "Set(" ++ toString shown.length ++ ")"
      | .boxed (.text units) => "String \x7b \"" ++ Text.ofUnits units ++ "\" \x7d"
      | .boxed (.number value) => "Number \x7b " ++ numberText value ++ " \x7d"
      | .boxed (.bool value) => "Boolean \x7b " ++ toString value ++ " \x7d"
      | .error _ => heap.displayError (heap.displayFrom room true) id
      | _ => heap.displayObject id
    | _, _ => ""
  | _, _, value => displayPrimitive value

def display (heap : Heap) (value : Value) : String :=
  heap.displayFrom (heap.objects.size + 1) true value

end Heap

end ServerRender.Script
