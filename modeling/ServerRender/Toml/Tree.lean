import ServerRender.Toml.Basic

/-!
# Tables under construction

A document names its tables in any order, so a table remembers how it came about:
whether only its own sub-tables were named so far, and whether dotted keys made it. A
table that stands in brackets may not be opened twice, and dotted keys only extend
tables that dotted keys made.
-/

namespace ServerRender.Toml

inductive Node where
  | value (finished : Toml)
  /-- A table: whether it is only implied by others, and whether dotted keys made it. -/
  | table (implied dotted : Bool) (entries : List (String × Node))
  /-- An array of tables in double brackets. -/
  | tables (elements : List (List (String × Node)))

abbrev Entries := List (String × Node)

namespace Node

def find? (entries : Entries) (key : String) : Option Node :=
  entries.lookup key

/-- Replaces the entry of a key that is present. -/
def replace (entries : Entries) (key : String) (node : Node) : Entries :=
  entries.map fun entry => if entry.1 = key then (key, node) else entry

/-- Changes the table at a path. The change is told whether dotted keys made that
table. Tables that are missing on the way are made; with `dotted` those on the way
that stand in brackets are refused. In an array the path goes through the last
table. -/
def update (dotted : Bool) (change : Bool → Entries → Option Entries) :
    List String → Bool → Entries → Option Entries
  | [], madeByDots, entries => change madeByDots entries
  | key :: path, _, entries =>
    match find? entries key with
    | none => do
      let made ← update dotted change path dotted []
      return entries ++ [(key, .table true dotted made)]
    | some (.value _) => none
    | some (.tables elements) => do
      let last ← elements.getLast?
      let changed ← update dotted change path false last
      return replace entries key (.tables (elements.dropLast ++ [changed]))
    | some (.table implied madeByDots inner) =>
      if dotted && !implied then none
      else do
        let changed ← update dotted change path madeByDots inner
        return replace entries key (.table implied madeByDots changed)

/-- Sets a dotted key in a table. -/
def set (path : List String) (key : String) (leaf : Toml) : Bool → Entries → Option Entries :=
  update true (fun madeByDots entries =>
    if madeByDots == path.isEmpty then none
    else if (find? entries key).isSome then none
    else some (entries ++ [(key, .value leaf)])) path

/-- Opens the table of a header in brackets. -/
def openTable (path : List String) (key : String) (root : Entries) : Option Entries :=
  update false (fun _ entries =>
    match find? entries key with
    | none => some (entries ++ [(key, .table false false [])])
    | some (.table true false inner) => some (replace entries key (.table false false inner))
    | some _ => none) path false root

/-- Adds a table to the array of a header in double brackets. -/
def addTable (path : List String) (key : String) (root : Entries) : Option Entries :=
  update false (fun _ entries =>
    match find? entries key with
    | none => some (entries ++ [(key, .tables [[]])])
    | some (.tables elements) => some (replace entries key (.tables (elements ++ [[]])))
    | some _ => none) path false root

mutual

/-- The finished value of a node. -/
def toToml : Node → Toml
  | .value finished => finished
  | .table _ _ entries => .table (entriesToToml entries)
  | .tables elements => .array (elementsToToml elements)

/-- The finished entries of a table. -/
def entriesToToml : List (String × Node) → List (String × Toml)
  | [] => []
  | (key, node) :: rest => (key, node.toToml) :: entriesToToml rest

/-- The finished tables of an array. -/
def elementsToToml : List (List (String × Node)) → List Toml
  | [] => []
  | entries :: rest => .table (entriesToToml entries) :: elementsToToml rest

end

end Node

end ServerRender.Toml
