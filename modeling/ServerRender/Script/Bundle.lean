import ServerRender.CodeBundle
import ServerRender.Json.Reader
import ServerRender.Json.Writer
import ServerRender.Script.Decoding
import ServerRender.Script.Globals
import ServerRender.Text.Lines

/-!
# Bundles as scripts

A bundle holds a component on each line that starts with the mark of one; what it
does follows as JSON. The statements of the prelude and of the components are one
script. What an engine evaluates is the text of a script.
-/

namespace ServerRender.Script

def componentMark : String := "//@component "

/-- The lines in front of a component. -/
def linesBefore (does : Json) : Nat :=
  ((does.get? "syntax").map fun fault => natMember fault "lines").getD 0

/-- The script of a component. -/
def componentScript (name : String) (does : Json) : String :=
  String.ofList (List.replicate (linesBefore does) '\n') ++ componentMark
    ++ (Json.ofMembers [("name", .string name), ("does", does)]).write ++ "\n"

/-- The components of a source and the lines that they end on. -/
def componentsOf (source : String) : List (Nat × Component) :=
  (Text.lines source.toList).zipIdx.filterMap fun (line, index) => do
    let rest ← Text.afterStart? componentMark.toList (Text.trim line)
    return (index + 1, readComponent (← Json.readNested? ⟨false, true⟩ 4096 (String.ofList rest)))

/-- The script of a bundle. -/
def bundleProgram (source : String) : Program := do
  let prelude ← Source.parse 1 CodeBundle.browserPrelude
  return prelude ++ (← Component.join none (componentsOf source))

/-- The engine that runs these scripts; without `console` its realms have none. -/
def engine (console : Bool) : Engine Unit Realm where
  create world := (world, .value (.fresh console))
  load world realm source := (world, realm.load (discard (Run.runProgram (bundleProgram source))))
  eval world realm script := (world, realm.eval (Run.runProgram (Source.parse 1 script)))
  isOpen _ _ := true

end ServerRender.Script
