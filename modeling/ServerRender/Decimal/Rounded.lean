import ServerRender.Decimal.Shortest

/-!
# Rounded decimals

A double with a given number of digits, or of digits behind the point. The double is
taken as the number that it is, not as its shortest decimal, so a tie is a tie only
where the double lies halfway between two decimals.
-/

namespace ServerRender

/-- Where a number halfway between two others goes. -/
inductive Tie where
  | toEven
  | up
  deriving DecidableEq, Inhabited

/-- The quotient of two numbers as the nearest whole one. -/
def roundedQuotient (tie : Tie) (dividend divisor : Nat) : Nat :=
  let whole := dividend / divisor
  let rest := 2 * (dividend % divisor)
  if rest < divisor then whole
  else if divisor < rest then whole + 1
  else match tie with
    | .up => whole + 1
    | .toEven => if whole % 2 = 0 then whole else whole + 1

namespace Double

/-- The magnitude of a finite double in units of a power of ten. -/
def inUnits (x : Double) (tie : Tie) (place : Int) : Nat :=
  roundedQuotient tie
    (x.significand * Nat.pow 2 x.scale.toNat * Nat.pow 10 (-place).toNat)
    (Nat.pow 2 (-x.scale).toNat * Nat.pow 10 place.toNat)

/-- Whether the magnitude of a finite double is at least a power of ten. -/
def reaches (x : Double) (place : Int) : Bool :=
  Nat.pow 2 (-x.scale).toNat * Nat.pow 10 place.toNat
    ≤ x.significand * Nat.pow 2 x.scale.toNat * Nat.pow 10 (-place).toNat

/-- The power of ten that the first digit of a finite double counts. The shortest
decimal can be above the next one. -/
def firstPlace (x : Double) : Int :=
  if x.isZero then 0
  else
    let decimal := Decimal.shortest x
    let place := decimal.exponent + (Nat.toDigits 10 decimal.digits).length - 1
    if x.reaches place then place else place - 1

/-- So many digits of a finite double and the power of ten that the first one counts. -/
def roundedDigits (x : Double) (tie : Tie) (count : Nat) : List Char × Int :=
  if x.isZero then (List.replicate count '0', 0)
  else
    let place := x.firstPlace
    let digits := Nat.toDigits 10 (x.inUnits tie (place - count + 1))
    if digits.length = count then (digits, place) else (digits.take count, place + 1)

/-- A finite double with so many digits behind the point; negative zero has no sign. -/
def fixedText (x : Double) (count : Nat) : String :=
  let digits := Nat.toDigits 10 (x.inUnits .toEven (-count))
  let padded := List.replicate (count + 1 - digits.length) '0' ++ digits
  let whole := padded.take (padded.length - count)
  let fraction := padded.drop (padded.length - count)
  (if x.isNegative && !x.isZero then "-" else "") ++ String.ofList whole
    ++ (if count = 0 then "" else "." ++ String.ofList fraction)

end Double

end ServerRender
