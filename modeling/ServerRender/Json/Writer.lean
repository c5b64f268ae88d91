import ServerRender.Decimal.Style
import ServerRender.Json.Basic
import ServerRender.Text.Numeral

/-!
# Written JSON

Compact text without blanks. Strings escape the quote, the backslash and the control
characters below the space, and nothing else.
-/

namespace ServerRender.Json

/-- Doubles keep a fraction and turn to an exponent at `10 ^ 16` and below `10 ^ -5`. -/
def doubleStyle : DecimalStyle :=
  ⟨-5, 16, true⟩

/-- The form of a character between quotes. -/
def escapedChar (c : Char) : List Char :=
  if c = '"' then ['\\', '"']
  else if c = '\\' then ['\\', '\\']
  else if c = '\x08' then ['\\', 'b']
  else if c = '\t' then ['\\', 't']
  else if c = '\n' then ['\\', 'n']
  else if c = '\x0c' then ['\\', 'f']
  else if c = '\r' then ['\\', 'r']
  else if c.toNat < 0x20 then
    ['\\', 'u', '0', '0', Nat.digitChar (c.toNat / 16), Nat.digitChar (c.toNat % 16)]
  else [c]

/-- A text as a quoted literal. -/
def literal (text : List Char) : List Char :=
  '"' :: (text.flatMap escapedChar ++ ['"'])

def writeString (text : String) : String :=
  String.ofList (literal text.toList)

def Number.write : Number → String
  | .int value => toString value
  | .double value => if value.isFinite then doubleStyle.write value else "null"

mutual

/-- The text of a value. -/
def write : Json → String
  | .null => "null"
  | .bool value => if value then "true" else "false"
  | .number value => value.write
  | .string value => writeString value
  | .array items => "[" ++ writeItems items ++ "]"
  | .object members => "\x7b" ++ writeMembers members ++ "\x7d"

/-- The texts of the items with commas between them. -/
def writeItems : List Json → String
  | [] => ""
  | [item] => item.write
  | item :: rest => item.write ++ "," ++ writeItems rest

/-- The keys and values with commas between the members. -/
def writeMembers : List (String × Json) → String
  | [] => ""
  | [(key, value)] => writeString key ++ ":" ++ value.write
  | (key, value) :: rest => writeString key ++ ":" ++ value.write ++ "," ++ writeMembers rest

end

end ServerRender.Json
