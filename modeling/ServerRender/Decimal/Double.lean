/-!
# Binary floating point numbers

A number of sixty-four bits is its bit pattern: a sign, eleven bits of exponent and
fifty-two of fraction. Equality is equality of patterns, so it tells the two zeros
apart.
-/

namespace ServerRender

structure Double where
  bits : UInt64
  deriving DecidableEq, Inhabited

namespace Double

def ofFloat (x : Float) : Double :=
  ⟨x.toBits⟩

def toFloat (x : Double) : Float :=
  Float.ofBits x.bits

/-- The double nearest to a natural number. -/
def ofNat (n : Nat) : Double :=
  ofFloat (Float.ofNat n)

def ofInt (n : Int) : Double :=
  ofFloat (Float.ofInt n)

/-- The double nearest to `digits · 10 ^ exponent`, infinite beyond the largest one. -/
def ofDecimal (digits : Nat) (exponent : Int) : Double :=
  ofFloat (Float.ofScientific digits (exponent < 0) exponent.natAbs)

def isNegative (x : Double) : Bool :=
  x.bits.toNat ≥ Nat.pow 2 63

def exponentField (x : Double) : Nat :=
  x.bits.toNat / Nat.pow 2 52 % Nat.pow 2 11

def fractionField (x : Double) : Nat :=
  x.bits.toNat % Nat.pow 2 52

def isFinite (x : Double) : Bool :=
  x.exponentField != 2047

def isNaN (x : Double) : Bool :=
  x.exponentField == 2047 && x.fractionField != 0

def isZero (x : Double) : Bool :=
  x.exponentField == 0 && x.fractionField == 0

/-- The whole number `m` in the magnitude `m · 2 ^ scale` of a finite double. -/
def significand (x : Double) : Nat :=
  if x.exponentField = 0 then x.fractionField else x.fractionField + Nat.pow 2 52

def scale (x : Double) : Int :=
  max (x.exponentField : Int) 1 - 1075

/-- The whole number that a finite double without a fraction stands for. -/
def toInt? (x : Double) : Option Int :=
  if !x.isFinite then none
  else
    let signed (n : Nat) : Int := if x.isNegative then -(n : Int) else n
    if x.scale ≥ 0 then some (signed (x.significand * Nat.pow 2 x.scale.toNat))
    else
      let unit := Nat.pow 2 x.scale.natAbs
      if x.significand % unit = 0 then some (signed (x.significand / unit)) else none

/-- The whole number towards zero of a finite double. -/
def truncated (x : Double) : Int :=
  let size :=
    if x.scale ≥ 0 then x.significand * Nat.pow 2 x.scale.toNat
    else x.significand / Nat.pow 2 x.scale.natAbs
  if x.isNegative then -(size : Int) else size

instance : Neg Double := ⟨fun x => ofFloat (-x.toFloat)⟩

instance : Add Double := ⟨fun x y => ofFloat (x.toFloat + y.toFloat)⟩

instance : Mul Double := ⟨fun x y => ofFloat (x.toFloat * y.toFloat)⟩

instance : Div Double := ⟨fun x y => ofFloat (x.toFloat / y.toFloat)⟩

def infinity : Double :=
  ⟨0x7FF0000000000000⟩

/-- The result of operations that have none. -/
def notANumber : Double :=
  ⟨0x7FF8000000000000⟩

def power (x y : Double) : Double :=
  ofFloat (Float.pow x.toFloat y.toFloat)

/-- What a division towards zero leaves; it has the sign of the dividend. -/
def remainder (x y : Double) : Double :=
  if x.isNaN || y.isNaN || !x.isFinite || y.isZero then notANumber
  else if !y.isFinite || x.isZero then x
  else
    let scale := min x.scale y.scale
    let whole (z : Double) : Nat := z.significand * Nat.pow 2 (z.scale - scale).toNat
    let size := ofFloat (Float.scaleB (Float.ofNat (whole x % whole y)) scale)
    if x.isNegative then -size else size

/-- Whether one number is below another; nothing is below or above what is no number. -/
def isBelow (x y : Double) : Bool :=
  x.toFloat < y.toFloat

/-- Equality of numbers, which does not tell the zeros apart. -/
def isSame (x y : Double) : Bool :=
  x.toFloat == y.toFloat

end Double

end ServerRender
