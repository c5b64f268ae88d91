import ServerRender.Decimal.Double
import ServerRender.Table

/-!
# JSON values

A number is a whole number of at most sixty-four bits or a double. The members of an
object stand in the order of their keys, each key once.
-/

namespace ServerRender

inductive Json.Number where
  /-- From `-2 ^ 63` to `2 ^ 64 - 1`. -/
  | int (value : Int)
  | double (value : Double)
  deriving DecidableEq, Inhabited

inductive Json where
  | null
  | bool (value : Bool)
  | number (value : Json.Number)
  | string (value : String)
  | array (items : List Json)
  | object (members : List (String × Json))
  deriving Inhabited

namespace Json

/-- The range of whole numbers: those of a signed and of an unsigned word together. -/
def isWhole (n : Int) : Bool :=
  -(Nat.pow 2 63 : Int) ≤ n && n < (UInt64.size : Int)

def ofInt (n : Int) : Json :=
  .number (.int n)

def ofNat (n : Nat) : Json :=
  ofInt n

/-- An object; of several members with one key the last stays. -/
def ofMembers (members : List (String × Json)) : Json :=
  .object (Table.ofList members).entries

/-- The member of an object with the given key. -/
def get? (json : Json) (key : String) : Option Json :=
  match json with
  | .object members => (Table.mk members).get? key
  | _ => none

end Json

end ServerRender
