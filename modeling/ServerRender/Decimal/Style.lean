import ServerRender.Decimal.Shortest

/-!
# Written doubles

Numbers of medium size are written with a point where it falls, all others with one
digit before the point and a signed exponent. Where the border lies, and whether a
whole number keeps a fraction, is for the format to say.
-/

namespace ServerRender

structure DecimalStyle where
  /-- The least decimal exponent that is written out. -/
  plainFrom : Int
  /-- The least exponent above it that is not. -/
  plainBelow : Int
  /-- Whether `.0` follows a whole number that is written out. -/
  fraction : Bool

namespace DecimalStyle

private def zeros (n : Nat) : List Char :=
  List.replicate n '0'

/-- A decimal with the given digits whose first digit counts units of `10 ^ exponent`. -/
def writeDigits (style : DecimalStyle) (digits : List Char) (exponent : Int) : String :=
  let count : Int := digits.length
  if style.plainFrom ≤ exponent && exponent < style.plainBelow then
    if exponent < 0 then
      "0." ++ String.ofList (zeros (-exponent - 1).toNat ++ digits)
    else if count ≤ exponent + 1 then
      String.ofList (digits ++ zeros (exponent + 1 - count).toNat)
        ++ (if style.fraction then ".0" else "")
    else
      String.ofList (digits.take (exponent + 1).toNat) ++ "."
        ++ String.ofList (digits.drop (exponent + 1).toNat)
  else
    let tail := if digits.tail.isEmpty then "" else "." ++ String.ofList digits.tail
    String.ofList (digits.take 1) ++ tail ++ "e" ++ (if exponent < 0 then "-" else "+")
      ++ toString exponent.natAbs

/-- The text of the magnitude of a finite double. -/
def writeMagnitude (style : DecimalStyle) (x : Double) : String :=
  if x.isZero then style.writeDigits ['0'] 0
  else
    let decimal := Decimal.shortest x
    let digits := Nat.toDigits 10 decimal.digits
    style.writeDigits digits (decimal.exponent + digits.length - 1)

/-- The text of a finite double, a sign in front of every negative one. -/
def write (style : DecimalStyle) (x : Double) : String :=
  (if x.isNegative then "-" else "") ++ style.writeMagnitude x

end DecimalStyle

end ServerRender
