import ServerRender.Toml.Scalar
import ServerRender.Toml.Tree

/-!
# Reading TOML

A document is a sequence of lines: blank, a header in brackets, or a key with its
value. The value of the document is the table that its lines build up.
-/

namespace ServerRender.Toml

mutual

/-- One value. `depth` counts the brackets that may still open. -/
def readValue? : Nat → Nat → List Char → Option (Toml × List Char)
  | 0, _, _ => none
  | fuel + 1, depth, text =>
    match text with
    | [] => none
    | c :: rest =>
      if c = '"' || c = '\'' then (readString? text).map fun (value, left) => (.string value, left)
      else if c = '[' then
        if depth = 0 then none
        else (readItems? fuel (depth - 1) rest).map fun (items, left) => (.array items, left)
      else if c = '\x7b' then
        if depth = 0 then none
        else (readPairs? fuel (depth - 1) [] rest).map fun (entries, left) =>
          (.table (Node.entriesToToml entries), left)
      else match text with
        | 't' :: 'r' :: 'u' :: 'e' :: left => some (.boolean true, left)
        | 'f' :: 'a' :: 'l' :: 's' :: 'e' :: left => some (.boolean false, left)
        | _ => (readMoment? text).or ((readFloat? text).or (readInteger? text))

/-- The items of an array up to its bracket; a comma may follow the last. -/
def readItems? : Nat → Nat → List Char → Option (List Toml × List Char)
  | 0, _, _ => none
  | fuel + 1, depth, text =>
    match skipLines text.length text with
    | ']' :: left => some ([], left)
    | start => do
      let (item, afterItem) ← readValue? fuel depth start
      match skipLines afterItem.length afterItem with
      | ']' :: left => return ([item], left)
      | ',' :: rest =>
        let (items, left) ← readItems? fuel depth rest
        return (item :: items, left)
      | _ => none

/-- The pairs of an inline table up to its brace, added to those before them. -/
def readPairs? : Nat → Nat → Entries → List Char → Option (Entries × List Char)
  | 0, _, _, _ => none
  | fuel + 1, depth, entries, text =>
    match skipBlanks text with
    | '\x7d' :: left => if entries.isEmpty then some ([], left) else none
    | start => do
      let (path, key, afterKey) ← readKey? start
      let .cons '=' valueText := afterKey | none
      let (value, afterValue) ← readValue? fuel depth (skipBlanks valueText)
      let extended ← Node.set path key value false entries
      match skipBlanks afterValue with
      | '\x7d' :: left => return (extended, left)
      | ',' :: rest => readPairs? fuel depth extended rest
      | _ => none

end

/-- A line that says something. -/
inductive Statement where
  | pair (path : List String) (key : String) (value : Toml)
  | table (path : List String) (key : String)
  | tables (path : List String) (key : String)

def readStatement? (text : List Char) : Option (Statement × List Char) :=
  match text with
  | '[' :: '[' :: rest => do
    let (path, key, afterKey) ← readKey? rest
    let .cons ']' (.cons ']' left) := afterKey | none
    return (.tables path key, left)
  | '[' :: rest => do
    let (path, key, afterKey) ← readKey? rest
    let .cons ']' left := afterKey | none
    return (.table path key, left)
  | _ => do
    let (path, key, afterKey) ← readKey? text
    let .cons '=' valueText := afterKey | none
    let start := skipBlanks valueText
    let (value, left) ← readValue? (2 * start.length + 2) maxNesting start
    return (.pair path key value, left)

/-- The statements of a text, each on a line of its own. -/
def readStatements? : Nat → List Char → Option (List Statement)
  | 0, _ => none
  | fuel + 1, text =>
    match skipLines text.length text with
    | [] => some []
    | start =>
      if (skipComment start).isEmpty then some []
      else do
        let (statement, afterStatement) ← readStatement? start
        let rest ← afterLine? afterStatement
        let statements ← readStatements? fuel rest
        return statement :: statements

/-- The document so far, and the path of the table that is open. -/
structure Document where
  root : Entries
  opened : List String

/-- Adds what a statement says. -/
def Document.add? (document : Document) : Statement → Option Document
  | .pair path key value =>
    (Node.update false (Node.set path key value) document.opened false document.root).map
      fun root => { document with root }
  | .table path key =>
    (Node.openTable path key document.root).map fun root => ⟨root, path ++ [key]⟩
  | .tables path key =>
    (Node.addTable path key document.root).map fun root => ⟨root, path ++ [key]⟩

/-- A byte order mark may stand in front of a document. -/
def dropMark (text : List Char) : List Char :=
  match text with
  | '\ufeff' :: rest => rest
  | _ => text

/-- The entries of the document that a text holds. -/
def read? (text : String) : Option (List (String × Toml)) := do
  let start := dropMark text.toList
  let statements ← readStatements? (start.length + 1) start
  let document ← statements.foldlM Document.add? ⟨[], []⟩
  return Node.entriesToToml document.root

end ServerRender.Toml
