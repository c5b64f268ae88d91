/-!
# Decimal numerals

Unsigned numbers of a fixed width, read from ASCII digits after an optional plus
sign.
-/

namespace ServerRender.Text

def digitValue? (c : Char) : Option Nat :=
  if c.isDigit then some (c.toNat - '0'.toNat) else none

/-- The value of a non-empty run of digits. -/
def digits? (text : List Char) : Option Nat :=
  if text.isEmpty then none
  else text.foldl (fun sum c => do return 10 * (← sum) + (← digitValue? c)) (some 0)

/-- A number below `bound`; a plus sign may stand before the digits. -/
def numeral? (bound : Nat) (text : List Char) : Option Nat :=
  let body := match text with
    | '+' :: rest => rest
    | _ => text
  (digits? body).filter (· < bound)

/-- A number of 32 bits. -/
def readUInt32? (text : List Char) : Option UInt32 :=
  (numeral? UInt32.size text).map UInt32.ofNat

/-- Lower-case hexadecimal digits without leading zeros. -/
def hexDigits (n : Nat) : String :=
  String.ofList (Nat.toDigits 16 n)

/-- Text padded on the left with blanks to a width counted in characters. -/
def padLeft (width : Nat) (text : String) : String :=
  String.ofList (List.replicate (width - text.length) ' ') ++ text

end ServerRender.Text
