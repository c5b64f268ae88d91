import ServerRender.Decimal.Double

/-!
# The shortest decimal of a double

Every real number in a certain interval around a double rounds to it. Among the
decimals in that interval those with the fewest digits are taken, and of those the
nearest to the double. The search runs over the grids of multiples of a power of
ten, the coarsest first, in exact arithmetic.
-/

namespace ServerRender

/-- The number `digits · 10 ^ exponent`. -/
structure Decimal where
  digits : Nat
  exponent : Int
  deriving DecidableEq

namespace Decimal

/-- Four times a positive finite double and the bounds of its interval, all in units
of a quarter of its last place. The lower neighbour of a power of two is only half as
far away as the upper one. -/
structure Interval where
  lower : Nat
  middle : Nat
  upper : Nat
  /-- The power of two that is the unit. -/
  unit : Int
  /-- Whether the bounds themselves round to the double. -/
  closed : Bool

def Interval.ofDouble (x : Double) : Interval where
  lower := 4 * x.significand - (if x.fractionField = 0 && x.exponentField > 1 then 1 else 2)
  middle := 4 * x.significand
  upper := 4 * x.significand + 2
  unit := x.scale - 2
  closed := x.significand % 2 = 0

/-- With `place` a power of ten, the decimal `d · place` compares with `n · unit` as
`d * placeFactor` does with `n * unitFactor`. -/
def unitFactor (unit place : Int) : Nat :=
  Nat.pow 2 unit.toNat * Nat.pow 10 (-place).toNat

def placeFactor (unit place : Int) : Nat :=
  Nat.pow 10 place.toNat * Nat.pow 2 (-unit).toNat

/-- The best of the two multiples of a power of ten on either side of the double, if
one lies in the interval. A tie goes to the even multiple. -/
def onGrid? (interval : Interval) (place : Int) : Option Decimal :=
  let u := unitFactor interval.unit place
  let p := placeFactor interval.unit place
  let below := interval.middle * u / p
  let inside (d : Nat) : Bool :=
    if interval.closed then interval.lower * u ≤ d * p && d * p ≤ interval.upper * u
    else interval.lower * u < d * p && d * p < interval.upper * u
  let gapBelow := interval.middle * u - below * p
  let gapAbove := (below + 1) * p - interval.middle * u
  let preferAbove := gapAbove < gapBelow || (gapAbove == gapBelow && below % 2 == 1)
  match inside below, inside (below + 1) with
  | true, true => some ⟨if preferAbove then below + 1 else below, place⟩
  | true, false => some ⟨below, place⟩
  | false, true => some ⟨below + 1, place⟩
  | false, false => none

/-- Tries `count` grids downwards from `place`. -/
def search (interval : Interval) : Nat → Int → Decimal
  | 0, place => ⟨interval.middle * unitFactor interval.unit place
      / placeFactor interval.unit place, place⟩
  | count + 1, place =>
    match onGrid? interval place with
    | some found => found
    | none => search interval count (place - 1)

/-- The shortest decimal of the magnitude of a finite double other than zero. -/
def shortest (x : Double) : Decimal :=
  let binaryLength : Int := Nat.log2 x.significand + x.scale
  search (Interval.ofDouble x) 24 (binaryLength * 1233 / 4096 + 2)

end Decimal

end ServerRender
