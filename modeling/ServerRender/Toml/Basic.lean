/-!
# TOML values

The values of TOML 1.0. Floats and moments (dates, times and both together) keep
their written form.
-/

namespace ServerRender

inductive Toml where
  | string (value : String)
  | integer (value : Int)
  | boolean (value : Bool)
  | float (written : String)
  | moment (written : String)
  | array (items : List Toml)
  | table (entries : List (String × Toml))
  deriving Inhabited

namespace Toml

/-- How deep arrays and inline tables may stand in each other, and how many parts a
dotted key may have. -/
def maxNesting : Nat := 79

end Toml

end ServerRender
