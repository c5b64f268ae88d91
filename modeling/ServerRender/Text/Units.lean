/-!
# Code units

Scripts see a string as units of sixteen bits. A character beyond the first 65536
takes two of them, a high and a low surrogate. A surrogate without its partner stands
for no character; in text its escape takes its place.
-/

namespace ServerRender.Text

def unitsOfChar (c : Char) : List UInt16 :=
  let code := c.toNat
  if code < 0x10000 then [UInt16.ofNat code]
  else
    [UInt16.ofNat (0xD800 + (code - 0x10000) / 0x400), UInt16.ofNat (0xDC00 + (code - 0x10000) % 0x400)]

def units (text : String) : List UInt16 :=
  text.toList.flatMap unitsOfChar

def isHighSurrogate (unit : UInt16) : Bool :=
  0xD800 ≤ unit && unit < 0xDC00

def isLowSurrogate (unit : UInt16) : Bool :=
  0xDC00 ≤ unit && unit < 0xE000

/-- The character that a unit stands for on its own, or the escape of a surrogate. -/
def charsOfUnit (unit : UInt16) : List Char :=
  if isHighSurrogate unit || isLowSurrogate unit then
    '\\' :: 'u' :: (Nat.toDigits 16 unit.toNat).map Char.toUpper
  else [Char.ofNat unit.toNat]

def charsOfUnits : List UInt16 → List Char
  | [] => []
  | [unit] => charsOfUnit unit
  | first :: second :: rest =>
    if isHighSurrogate first && isLowSurrogate second then
      Char.ofNat (0x10000 + (first.toNat - 0xD800) * 0x400 + (second.toNat - 0xDC00))
        :: charsOfUnits rest
    else charsOfUnit first ++ charsOfUnits (second :: rest)

/-- The text of a unit sequence. -/
def ofUnits (sequence : List UInt16) : String :=
  String.ofList (charsOfUnits sequence)

end ServerRender.Text
