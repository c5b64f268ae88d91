import ServerRender.Script.Coercion

/-!
# Operators

What the operators of a script do with values.
-/

namespace ServerRender.Script

namespace Run

def mixedNumbers : NativeError :=
  .typeError "cannot mix BigInt and other types, use explicit conversions"

/-! ## Comparison -/

/-- Whether a whole number is below a double; no answer for what is no number. -/
def isBelowDouble? (n : Int) (x : Double) : Option Bool :=
  if x.isNaN then none
  else if !x.isFinite then some !x.isNegative
  else match x.toInt? with
    | some m => some (n < m)
    | none => some (if x.isNegative then n < x.truncated else n ≤ x.truncated)

/-- Whether a double is below a whole number. -/
def isAboveDouble? (x : Double) (n : Int) : Option Bool :=
  match isBelowDouble? n x, x.toInt? with
  | some below, some m => some (!below && m != n)
  | some below, none => some !below
  | none, _ => none

/-- Whether one primitive is below another, where they can be compared. -/
def isBelow? (x y : Value) : Run (Option Bool) := do
  match x, y with
  | .text first, .text second => return some (decide (first < second))
  | .bigint m, .bigint n => return some (m < n)
  | .bigint m, .text units => return (Lexeme.bigintOfText? (Text.ofUnits units)).map (m < ·)
  | .text units, .bigint n => return (Lexeme.bigintOfText? (Text.ofUnits units)).map (· < n)
  | .bigint m, other => return isBelowDouble? m (← primitiveNumber other)
  | other, .bigint n => return isAboveDouble? (← primitiveNumber other) n
  | _, _ =>
    let first ← primitiveNumber x
    let second ← primitiveNumber y
    return if first.isNaN || second.isNaN then none else some (first.isBelow second)

/-- Equality of primitives after conversion. -/
def areEqualPrimitives (x y : Value) : Bool :=
  let number (value : Value) : Double := match value with
    | .number x => x
    | .bool b => .ofNat (if b then 1 else 0)
    | .text units => Lexeme.numberOfText (Text.ofUnits units)
    | _ => .notANumber
  match x, y with
  | .symbol _, _ => x == y
  | _, .symbol _ => x == y
  | .text _, .text _ => x == y
  | .bigint m, .bigint n => m == n
  | .bigint n, .text units => Lexeme.bigintOfText? (Text.ofUnits units) == some n
  | .text units, .bigint n => Lexeme.bigintOfText? (Text.ofUnits units) == some n
  | .bigint n, other => (number other).toInt? == some n
  | other, .bigint n => (number other).toInt? == some n
  | _, _ => (number x).isSame (number y)

/-- Equality after conversion. -/
def areEqual (x y : Value) : Run Bool := do
  if x.isNullish || y.isNullish then return x.isNullish && y.isNullish
  match x, y with
  | .object _, .object _ => return x == y
  | _, _ => return areEqualPrimitives (← primitive "default" x) (← primitive "default" y)

/-! ## Arithmetic -/

/-- Powers of numbers; a power of one by something infinite is no number. -/
def power (x y : Double) : Double :=
  if y.isNaN then .notANumber
  else if !y.isFinite && (x.isSame (.ofNat 1) || x.isSame (.ofInt (-1))) then .notANumber
  else x.power y

/-- A power of a whole number. -/
def integerPower (m n : Int) : Run Int := do
  if n < 0 then throwRange "BigInt negative exponent"
  else if 1 < m.natAbs && 1000000 < n then throwRange "Maximum BigInt size exceeded"
  else return Int.pow m n.toNat

def nonzero (n : Int) : Run Int := do
  if n = 0 then throwRange "BigInt division by zero" else return n

/-- A whole number of thirty-two bits as a value. -/
def ofWord (n : Int) : Value :=
  .number (.ofInt (n.bmod (Nat.pow 2 32)))

/-- Bitwise operations on whole numbers of two's complement with so many bits. -/
def bitwise (f : Nat → Nat → Nat) (size : Nat) (x y : Int) : Int :=
  let bits (n : Int) : Nat := (n % (Nat.pow 2 size : Int)).toNat
  (f (bits x) (bits y) : Int).bmod (Nat.pow 2 size)

/-- Bits that hold two whole numbers and their signs. -/
def commonSize (x y : Int) : Nat :=
  max (Nat.log2 x.natAbs) (Nat.log2 y.natAbs) + 2

/-- By how many bits a number shifts. -/
def shiftOf (x : Double) : Nat :=
  (wordOf x % 32).toNat

/-- A shift of a whole number, to the right for a negative count. -/
def shift (n count : Int) : Run Int := do
  if count < 0 then return n / Nat.pow 2 (min count.natAbs (Nat.log2 n.natAbs + 2))
  else if 1000000 < count then throwRange "Maximum BigInt size exceeded"
  else return n * Nat.pow 2 count.toNat

/-- An operation on two numbers. -/
def operateNumbers (operator : Operator) (x y : Double) : Value :=
  match operator with
  | .subtract => .number (x + -y)
  | .multiply => .number (x * y)
  | .divide => .number (x / y)
  | .remainder => .number (x.remainder y)
  | .power => .number (power x y)
  | .bitAnd => ofWord (bitwise Nat.land 32 (wordOf x) (wordOf y))
  | .bitOr => ofWord (bitwise Nat.lor 32 (wordOf x) (wordOf y))
  | .bitXor => ofWord (bitwise Nat.xor 32 (wordOf x) (wordOf y))
  | .shiftLeft => ofWord (wordOf x * Nat.pow 2 (shiftOf y))
  | .shiftRight => ofWord (wordOf x / Nat.pow 2 (shiftOf y))
  | .shiftRightUnsigned => .ofInt (wordOf x % (Nat.pow 2 32 : Int) / Nat.pow 2 (shiftOf y))
  | _ => .number (x + y)

/-- An operation on two big integers. -/
def operateIntegers (operator : Operator) (m n : Int) : Run Value := do
  match operator with
  | .subtract => return .bigint (m - n)
  | .multiply => return .bigint (m * n)
  | .divide => return .bigint (m.tdiv (← nonzero n))
  | .remainder => return .bigint (m.tmod (← nonzero n))
  | .power => return .bigint (← integerPower m n)
  | .bitAnd => return .bigint (bitwise Nat.land (commonSize m n) m n)
  | .bitOr => return .bigint (bitwise Nat.lor (commonSize m n) m n)
  | .bitXor => return .bigint (bitwise Nat.xor (commonSize m n) m n)
  | .shiftLeft => return .bigint (← shift m n)
  | .shiftRight => return .bigint (← shift m (-n))
  | .shiftRightUnsigned => throwType "BigInts have no unsigned right shift, use >> instead"
  | _ => return .bigint (m + n)

/-- An operation on two numbers or two big integers. -/
def calculate (operator : Operator) (x y : Value) : Run Value := do
  let first ← numericOf x
  let second ← numericOf y
  match first, second with
  | .number x, .number y => return operateNumbers operator x y
  | .bigint m, .bigint n => operateIntegers operator m n
  | _, _ => throwNative mixedNumbers

def addValues (x y : Value) : Run Value := do
  let first ← primitive "default" x
  let second ← primitive "default" y
  match first, second with
  | .text units, other => return .text (units ++ (← primitiveText other))
  | other, .text units => return .text ((← primitiveText other) ++ units)
  | _, _ => calculate .add first second

/-! ## Objects -/

/-- Whether a value inherits from the prototype of a function. -/
def isOrdinaryInstance (value function : Value) : Run Bool := do
  let heap ← heap
  let whole := match heap.kind? function with
    | some (.function (.bound target _ _) _) => Value.object target
    | _ => function
  if !heap.isFunction whole then return false
  let .object id := value | return false
  match ← readName whole "prototype" with
  | .object prototype =>
    let rec walk : Nat → Nat → Run Bool
      | 0, _ => return false
      | room + 1, id => do
        match ← parentOf id with
        | some parent => if parent = prototype then return true else walk room parent
        | none => return false
    walk heap.objects.size id
  | _ => throwType "function has non-object prototype in instanceof check"

/-- Whether a value is an instance of another. -/
def isInstance (value other : Value) : Run Bool := do
  if !other.isObject then
    throwType
      ("right-hand side of 'instanceof' should be an object, got `" ++ (← kindName other) ++ "`")
  match ← method? other (.standard "hasInstance") with
  | some method => return (← apply method other [value]).isTruthy
  | none =>
    if ← isFunction other then isOrdinaryInstance value other
    else throwType "right-hand side of 'instanceof' is not callable"

/-- Whether a value has a property with a key. -/
def contains (value key : Value) : Run Bool := do
  match value with
  | .object id => hasProperty id (← keyOf key)
  | _ =>
    throwType ("right-hand side of 'in' should be an object, got `" ++ (← kindName value) ++ "`")

/-! ## All operators -/

/-- A comparison; `swaps` asks whether the second value is below the first. -/
def compare (x y : Value) (swaps : Bool) (expected : Bool) : Run Value := do
  let first ← primitive "number" x
  let second ← primitive "number" y
  let answer ← if swaps then isBelow? second first else isBelow? first second
  return .bool (answer == some expected)

def operate (operator : Operator) (x y : Value) : Run Value := do
  match operator with
  | .add => addValues x y
  | .less => compare x y false true
  | .greater => compare x y true true
  | .lessOrEqual => compare x y true false
  | .greaterOrEqual => compare x y false false
  | .equal => return .bool (← areEqual x y)
  | .notEqual => return .bool !(← areEqual x y)
  | .same => return .bool (x.isIdentical y)
  | .notSame => return .bool !(x.isIdentical y)
  | .contains => return .bool (← contains y x)
  | .instanceOf => return .bool (← isInstance x y)
  | .sequence => return y
  | _ => calculate operator x y

def operateOn (operator : Prefix) (x : Value) : Run Value := do
  match operator with
  | .negate =>
    match ← numericOf x with
    | .number x => return .number (-x)
    | .bigint n => return .bigint (-n)
    | other => return other
  | .number => return .number (← numberOf x)
  | .not => return .bool !x.isTruthy
  | .complement =>
    match ← numericOf x with
    | .number x => return ofWord (-1 - wordOf x)
    | .bigint n => return .bigint (-1 - n)
    | other => return other
  | .kind => return .ofString (← kindName x)
  | .nothing => return .undefined
  | .delete => return .bool true

end Run

end ServerRender.Script
