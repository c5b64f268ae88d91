import ServerRender.Json.Writer
import ServerRender.RenderError

/-!
# Props

The data that a component is rendered with: text that goes into the wrapper as it is,
or a JSON value. Without any, a component gets an empty object.
-/

namespace ServerRender

inductive Props where
  | text (content : String)
  | json (value : Json)
  deriving Inhabited

namespace Props

def defaults : Props :=
  .text "\x7b\x7d"

/-- The text that stands in the wrapper. -/
def toText : Props → String
  | .text content => content
  | .json value => value.write

/-- A map with whole numbers for keys, which become their decimal texts. -/
def ofIntMap (entries : List (Int × Json)) : Props :=
  .json (.ofMembers (entries.map fun (key, value) => (toString key, value)))

/-- A map with pairs for keys, which have no text. -/
def ofPairMap (entries : List ((Int × Int) × Json)) : Except RenderError Props :=
  if entries.isEmpty then .ok (.json (.object [])) else .error (.props .keyNotText)

end Props

end ServerRender
