import ServerRender.Decimal.Rounded
import ServerRender.Script.Library.Basic

/-!
# Numbers and truth values

The classes of numbers, big integers and truth values, and mathematical functions.
-/

namespace ServerRender.Script

namespace Run

def booleanThis (this : Value) : Run Value :=
  primitiveThis "Boolean" "boolean" this

end Run

open Run in
def Class.boolean : Class where
  name := "Boolean"
  length := 1
  call := fun _ arguments => return .bool (argument arguments 0).isTruthy
  making :=
    some fun arguments target => addBoxed target "Boolean" (.bool (argument arguments 0).isTruthy)
  statics := []
  methods := [
    .method "toString" 0 (fun this _ => do return .text (← primitiveText (← booleanThis this))),
    .method "valueOf" 0 (fun this _ => booleanThis this)]

/-! ## Numbers -/

namespace Run

def numberThis (this : Value) : Run Double := do
  match ← primitiveThis "Number" "number" this with
  | .number x => return x
  | _ => return .notANumber

/-- The number that an argument stands for, a big integer included. -/
def numberFrom (arguments : List Value) : Run Value := do
  match arguments with
  | [] => return .ofNat 0
  | value :: _ =>
    match ← numericOf value with
    | .bigint n => return .number (.ofInt n)
    | other => return other

/-- A base for digits. -/
def radixOf (value : Value) : Run Nat := do
  match value with
  | .undefined => return 10
  | _ =>
    match ← wholeOf value with
    | .whole n => if 2 ≤ n && n ≤ 36 then return n.toNat else badRadix
    | _ => badRadix
where
  badRadix : Run Nat :=
    throwRange "radix must be an integer at least 2 and no greater than 36"

def digitChar (value : Nat) : Char :=
  if value < 10 then Char.ofNat (48 + value) else Char.ofNat (87 + value)

/-- The digits of a whole number in a base up to thirty-six. -/
def digitsIn (base n : Nat) : List Char :=
  let rec go : Nat → Nat → List Char → List Char
    | 0, _, digits => digits
    | fuel + 1, size, digits =>
      if size = 0 then digits else go fuel (size / base) (digitChar (size % base) :: digits)
  if n = 0 then ['0'] else go (Nat.log2 n + 1) n []

/-- Adds one in the last place of digits behind the point, the last one first; the
answer also says whether the whole part grows by one. -/
def carryDigits (base : Nat) : List Nat → List Nat × Bool
  | [] => ([], true)
  | digit :: rest =>
    if digit + 1 < base then ((digit + 1) :: rest, false) else carryDigits base rest

/-- The digits of a fraction, the last one first, as many as tell it from its
neighbours; the answer also says whether the whole part grows by one. -/
def fractionDigits (base : Nat) : Nat → Float → Float → List Nat → List Nat × Bool
  | 0, _, _, digits => (digits, false)
  | fuel + 1, fraction, delta, digits =>
    let scaled := fraction * base.toFloat
    let bound := delta * base.toFloat
    let digit := scaled.toUInt64.toNat
    let rest := scaled - digit.toFloat
    if (rest > 0.5 || rest == 0.5 && digit % 2 == 1) && rest + bound > 1 then
      carryDigits base (digit :: digits)
    else if rest ≥ bound then fractionDigits base fuel rest bound (digit :: digits)
    else (digit :: digits, false)

/-- Half the way to the next double. -/
def halfGap (x : Double) : Float :=
  let next : Double := ⟨x.bits + 1⟩
  let gap := 0.5 * (next.toFloat - x.toFloat)
  if gap > 0 then gap else (Double.mk 1).toFloat

/-- The digits of a whole number that is a double: those that it does not tell are
zero. The fuel is more than its binary digits. -/
def wholeDigits (base : Nat) : Nat → Float → List Char → List Char
  | 0, _, digits => digits
  | fuel + 1, whole, digits =>
    if whole ≥ 9007199254740992 then wholeDigits base fuel (whole / base.toFloat) ('0' :: digits)
    else digitsIn base whole.toUInt64.toNat ++ digits

/-- A number in another base than ten. -/
def textInBase (x : Double) (base : Nat) : String :=
  if x.isNaN || !x.isFinite || x.isZero then textOfNumber x
  else
    let size : Double := if x.isNegative then -x else x
    let whole := size.toFloat.floor
    let fraction := size.toFloat - whole
    let delta := halfGap size
    let (digits, grows) :=
      if fraction ≥ delta then fractionDigits base 1100 fraction delta [] else ([], false)
    let shown := wholeDigits base 1100 (if grows then whole + 1 else whole) []
    (if x.isNegative then "-" else "") ++ String.ofList shown
      ++ (if digits.isEmpty then "" else "." ++ String.ofList (digits.reverse.map digitChar))

def numberToText : Native := fun this arguments => do
  let x ← numberThis this
  let base ← radixOf (argument arguments 0)
  return .ofString (if base = 10 then textOfNumber x else textInBase x base)

/-- A count of digits within bounds. -/
def digitCount (value : Value) (least : Nat) (message : String) : Run Nat := do
  match ← wholeOf value with
  | .whole n => if least ≤ n && n ≤ 100 then return n.toNat else throwRange message
  | _ => throwRange message

def fixedNumber : Native := fun this arguments => do
  let x ← numberThis this
  let count ← digitCount (argument arguments 0) 0
    "toFixed() digits argument must be between 0 and 100"
  if !x.isFinite || 1e21 ≤ x.toFloat then return .ofString (textOfNumber x)
  else return .ofString (x.fixedText count)

/-- Digits with an exponent; a positive one has a sign. -/
def scientific (isNegative : Bool) (digits : List Char) (exponent : Int) : String :=
  (if isNegative then "-" else "") ++ String.ofList (digits.take 1)
    ++ (if digits.length ≤ 1 then "" else "." ++ String.ofList (digits.drop 1))
    ++ "e" ++ (if exponent < 0 then "-" else "+") ++ toString exponent.natAbs

def exponentialNumber : Native := fun this arguments => do
  let x ← numberThis this
  let given := argument arguments 0
  let asked ← wholeOf given
  if !x.isFinite then return .ofString (textOfNumber x)
  let isNegative := x.isNegative && !x.isZero
  if given = .undefined then
    let decimal := Decimal.shortest x
    let digits := if x.isZero then ['0'] else Nat.toDigits 10 decimal.digits
    let exponent := if x.isZero then 0 else decimal.exponent + digits.length - 1
    return .ofString (scientific isNegative digits exponent)
  match asked with
  | .whole n =>
    if 0 ≤ n && n ≤ 100 then
      let (digits, exponent) := x.roundedDigits .toEven (n.toNat + 1)
      return .ofString (scientific isNegative digits exponent)
    else badCount
  | _ => badCount
where
  badCount : Run Value :=
    throwRange "toExponential() argument must be between 0 and 100"

def preciseNumber : Native := fun this arguments => do
  let x ← numberThis this
  let given := argument arguments 0
  if given = .undefined then return .ofString (textOfNumber x)
  let asked ← wholeOf given
  if !x.isFinite then return .ofString (textOfNumber x)
  match asked with
  | .whole n =>
    if 1 ≤ n && n ≤ 100 then
      let count := n.toNat
      let (digits, exponent) := x.roundedDigits .up count
      let isNegative := x.isNegative && !x.isZero
      let sign := if isNegative then "-" else ""
      if exponent < -6 || (count : Int) ≤ exponent then
        return .ofString (scientific isNegative digits exponent)
      else if exponent < 0 then
        let zeros := List.replicate (-exponent - 1).toNat '0'
        return .ofString (sign ++ "0." ++ String.ofList (zeros ++ digits))
      else
        let size := exponent.toNat + 1
        let fraction := if size = count then "" else "." ++ String.ofList (digits.drop size)
        return .ofString (sign ++ String.ofList (digits.take size) ++ fraction)
    else badCount
  | _ => badCount
where
  badCount : Run Value :=
    throwRange "precision must be an integer at least 1 and no greater than 100"

/-- The whole number that a text starts with. -/
def readWhole : Native := fun _ arguments => do
  let text ← stringOf (argument arguments 0)
  let radix := wordOf (← numberOf (argument arguments 1))
  let (isNegative, body) := Lexeme.takeSign (text.toList.dropWhile Lexeme.isSpace)
  if radix != 0 && (radix < 2 || 36 < radix) then return .notANumber
  let (base, digits) := match body with
    | '0' :: mark :: rest =>
      if (mark = 'x' || mark = 'X') && (radix = 0 || radix = 16) then (16, rest)
      else (if radix = 0 then 10 else radix.toNat, body)
    | _ => (if radix = 0 then 10 else radix.toNat, body)
  let known := digits.takeWhile fun c => (Lexeme.digitIn? base c).isSome
  if known.isEmpty then return .notANumber
  let size := Double.ofDecimal (Lexeme.valueIn base known) 0
  return .number (if isNegative then -size else size)

def readNumber : Native := fun _ arguments => do
  return .number (Lexeme.leadingNumber (← stringOf (argument arguments 0)).toList)

/-- A test of a number; anything else fails it. -/
def testNumber (p : Double → Bool) : Native := fun _ arguments => do
  match argument arguments 0 with
  | .number x => return .bool (p x)
  | _ => return .bool false

end Run

open Run in
def Class.number : Class where
  name := "Number"
  length := 1
  call := fun _ arguments => numberFrom arguments
  making := some fun arguments target => do addBoxed target "Number" (← numberFrom arguments)
  statics := [
    .fixed "EPSILON" (.number ⟨0x3CB0000000000000⟩),
    .fixed "MAX_SAFE_INTEGER" (.ofNat maxSafe),
    .fixed "MIN_SAFE_INTEGER" (.ofInt (-maxSafe)),
    .fixed "MAX_VALUE" (.number ⟨0x7FEFFFFFFFFFFFFF⟩),
    .fixed "MIN_VALUE" (.number ⟨1⟩),
    .fixed "NEGATIVE_INFINITY" (.number (-Double.infinity)),
    .fixed "POSITIVE_INFINITY" (.number .infinity),
    .fixed "NaN" .notANumber,
    .method "parseInt" 2 readWhole,
    .method "parseFloat" 1 readNumber,
    .method "isFinite" 1 (testNumber Double.isFinite),
    .method "isInteger" 1 (testNumber fun x => x.toInt?.isSome),
    .method "isNaN" 1 (testNumber Double.isNaN),
    .method "isSafeInteger" 1
      (testNumber fun x => (x.toInt?.map fun n => decide (n.natAbs ≤ maxSafe)).getD false)]
  methods := [
    .method "toExponential" 1 exponentialNumber,
    .method "toFixed" 1 fixedNumber,
    .method "toLocaleString" 0
      (fun this _ => do return .ofString (textOfNumber (← numberThis this))),
    .method "toPrecision" 1 preciseNumber,
    .method "toString" 1 numberToText,
    .method "valueOf" 0 (fun this _ => do return .number (← numberThis this))]

/-! ## Big integers -/

namespace Run

/-- A finite number is written out in full in messages. -/
def plainStyle : DecimalStyle :=
  ⟨-400, 400, false⟩

def callBigint : Native := fun _ arguments => do
  match ← primitive "number" (argument arguments 0) with
  | .number x =>
    match x.toInt? with
    | some n => return .bigint n
    | none =>
      let shown := if x.isNaN then "NaN"
        else if x.isFinite then plainStyle.write x
        else if x.isNegative then "-inf" else "inf"
      throwRange ("cannot convert " ++ shown ++ " to a BigInt")
  | value => return .bigint (← bigintOf value)

def bigintThis (this : Value) : Run Int := do
  match ← primitiveThis "BigInt" "BigInt" this with
  | .bigint n => return n
  | _ => return 0

def bigintText : Native := fun this arguments => do
  let n ← bigintThis this
  let base ← radixOf (argument arguments 0)
  return .ofString ((if n < 0 then "-" else "") ++ String.ofList (digitsIn base n.natAbs))

/-- A big integer cut to so many bits, with or without a sign. -/
def cutBigint (signed : Bool) : Native := fun _ arguments => do
  let bits ← indexOf (argument arguments 0)
  let n ← bigintOf (argument arguments 1)
  let size := Nat.log2 n.natAbs + 2
  if size < bits && (signed || 0 ≤ n) then return .bigint n
  let range := Nat.pow 2 (min bits 1000000)
  return .bigint (if signed then n.bmod range else n % (range : Int))

end Run

open Run in
def Class.bigint : Class where
  name := "BigInt"
  length := 1
  call := callBigint
  making := some fun _ _ => throwType "BigInt is not a constructor"
  statics := [
    .method "asIntN" 2 (cutBigint true),
    .method "asUintN" 2 (cutBigint false)]
  methods := [
    .method "toString" 0 bigintText,
    .method "valueOf" 0 (fun this _ => do return .bigint (← bigintThis this)),
    .tag "BigInt"]

/-! ## Mathematics -/

namespace Run

/-- A function of one number. -/
def onNumber (f : Float → Float) : Native := fun _ arguments => do
  return .number (.ofFloat (f (← numberOf (argument arguments 0)).toFloat))

/-- A function of two numbers. -/
def onNumbers (f : Double → Double → Double) : Native := fun _ arguments => do
  let x ← numberOf (argument arguments 0)
  let y ← numberOf (argument arguments 1)
  return .number (f x y)

/-- The whole number next to a number towards zero. -/
def towardsZero (x : Float) : Float :=
  if x < 0 then x.ceil else x.floor

/-- The nearest whole number; a half goes up. -/
def roundUp (x : Float) : Float :=
  let low := x.floor
  if x - low < 0.5 then low else x.ceil

def signOf (x : Float) : Float :=
  if x > 0 then 1 else if x < 0 then -1 else x

/-- The logarithm of a number that is one larger. -/
def logOfNext (x : Float) : Float :=
  let next := 1 + x
  if next == 1 || next.isInf then (if next.isInf then next.log else x)
  else next.log * (x / (next - 1))

/-- A power of e less one. -/
def expLessOne (x : Float) : Float :=
  if x.abs < 1e-5 then x + x * x / 2
  else if x.abs < 1 then 2 * (x / 2).exp * (x / 2).sinh
  else x.exp - 1

/-- The length of a diagonal. -/
def diagonal (x y : Float) : Float :=
  let large := if x.abs < y.abs then y.abs else x.abs
  let small := if x.abs < y.abs then x.abs else y.abs
  if x.isInf || y.isInf then Double.infinity.toFloat
  else if x.isNaN || y.isNaN then x + y
  else if large == 0 then 0
  else if large < 1e150 && small > 1e-150 then (x * x + y * y).sqrt
  else large * (1 + (small / large) * (small / large)).sqrt

def withSign (size x : Float) : Float :=
  if (Double.ofFloat x).isNegative then -size.abs else size.abs

def inverseSinh (x : Float) : Float :=
  let size := x.abs
  if size == 0 || size.isInf then x
  else
    let inverse := 1 / size
    withSign (logOfNext (size + size / (diagonal 1 inverse + inverse))) x

def inverseCosh (x : Float) : Float :=
  if x < 1 then Double.notANumber.toFloat else (x + (x - 1).sqrt * (x + 1).sqrt).log

def inverseTanh (x : Float) : Float :=
  if x == 0 then x else 0.5 * logOfNext (2 * x / (1 - x))

/-- How many zeros stand in front of the first one of thirty-two bits. -/
def leadingZeros : Native := fun _ arguments => do
  let word := ((wordOf (← numberOf (argument arguments 0))) % (UInt32.size : Int)).toNat
  return .ofNat (if word = 0 then 32 else 31 - Nat.log2 word)

def multiplyWords : Native := fun _ arguments => do
  let x := wordOf (← numberOf (argument arguments 0))
  let y := wordOf (← numberOf (argument arguments 1))
  return ofWord (x * y)

def nearestSingle : Native :=
  onNumber fun x => x.toFloat32.toFloat

def allNumbers (arguments : List Value) : Run (List Double) :=
  arguments.mapM numberOf

/-- The largest number, or the smallest: the one that others are not beyond. -/
def extreme (wantsLargest : Bool) : Native := fun _ arguments => do
  let numbers ← allNumbers arguments
  if numbers.any Double.isNaN then return .notANumber
  let isBetter (x y : Double) : Bool :=
    if x.isZero && y.isZero then (if wantsLargest then !x.isNegative else x.isNegative)
    else if wantsLargest then y.isBelow x else x.isBelow y
  let start : Double := if wantsLargest then -Double.infinity else .infinity
  return .number (numbers.foldl (fun best x => if isBetter x best then x else best) start)

def lengthOfVector : Native := fun _ arguments => do
  let numbers ← allNumbers arguments
  return .number (.ofFloat (numbers.foldl (fun sum x => diagonal sum x.toFloat) 0))

end Run

open Run in
def Namespace.math : Namespace where
  name := "Math"
  members := [
    .fixed "E" (.number (.ofDecimal 2718281828459045 (-15))),
    .fixed "LN10" (.number (.ofDecimal 2302585092994046 (-15))),
    .fixed "LN2" (.number (.ofDecimal 6931471805599453 (-16))),
    .fixed "LOG10E" (.number (.ofDecimal 4342944819032518 (-16))),
    .fixed "LOG2E" (.number (.ofDecimal 14426950408889634 (-16))),
    .fixed "PI" (.number (.ofDecimal 3141592653589793 (-15))),
    .fixed "SQRT1_2" (.number (.ofDecimal 7071067811865476 (-16))),
    .fixed "SQRT2" (.number (.ofDecimal 14142135623730951 (-16))),
    .method "abs" 1 (onNumber Float.abs),
    .method "acos" 1 (onNumber Float.acos),
    .method "acosh" 1 (onNumber inverseCosh),
    .method "asin" 1 (onNumber Float.asin),
    .method "asinh" 1 (onNumber inverseSinh),
    .method "atan" 1 (onNumber Float.atan),
    .method "atanh" 1 (onNumber inverseTanh),
    .method "atan2" 2 (onNumbers fun y x => .ofFloat (Float.atan2 y.toFloat x.toFloat)),
    .method "cbrt" 1 (onNumber Float.cbrt),
    .method "ceil" 1 (onNumber Float.ceil),
    .method "clz32" 1 leadingZeros,
    .method "cos" 1 (onNumber Float.cos),
    .method "cosh" 1 (onNumber Float.cosh),
    .method "exp" 1 (onNumber Float.exp),
    .method "expm1" 1 (onNumber expLessOne),
    .method "floor" 1 (onNumber Float.floor),
    .method "fround" 1 nearestSingle,
    .method "hypot" 2 lengthOfVector,
    .method "imul" 2 multiplyWords,
    .method "log" 1 (onNumber Float.log),
    .method "log10" 1 (onNumber Float.log10),
    .method "log1p" 1 (onNumber logOfNext),
    .method "log2" 1 (onNumber Float.log2),
    .method "max" 2 (extreme true),
    .method "min" 2 (extreme false),
    .method "pow" 2 (onNumbers power),
    .method "random" 0 (fun _ _ => return .number (.ofDecimal 5 (-1))),
    .method "round" 1 (onNumber roundUp),
    .method "sign" 1 (onNumber signOf),
    .method "sin" 1 (onNumber Float.sin),
    .method "sinh" 1 (onNumber Float.sinh),
    .method "sqrt" 1 (onNumber Float.sqrt),
    .method "tan" 1 (onNumber Float.tan),
    .method "tanh" 1 (onNumber Float.tanh),
    .method "trunc" 1 (onNumber towardsZero),
    .tag "Math"]

end ServerRender.Script
