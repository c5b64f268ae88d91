import ServerRender.Json.Basic
import ServerRender.Text.Numeral

/-!
# Reading JSON

The grammar of RFC 8259 with a limit on nesting. A number without fraction and
exponent is whole as long as it fits a word of sixty-four bits, negative zero
excepted; any other is a double, and refused where it would be infinite. The quick rule
for doubles takes as many leading digits as fit an unsigned word and scales them; the
exact one takes the nearest double.

Each reading function takes the text that is left and gives back what it leaves.
-/

namespace ServerRender.Json

/-- How deep arrays and objects may stand in each other. -/
def maxNesting : Nat := 127

/-- What a reader makes of a text where readers differ. -/
structure Rules where
  /-- Whether an object may not repeat a key. -/
  distinct : Bool
  /-- Whether a double is the nearest one. -/
  exact : Bool

/-- The four blanks between tokens. -/
def isSpace (c : Char) : Bool :=
  c == ' ' || c == '\t' || c == '\n' || c == '\x0d'

def skipSpace (text : List Char) : List Char :=
  text.dropWhile isSpace

/-! ## Numbers -/

/-- Appends digits to a whole number as long as it fits an unsigned word. The second
result counts the digits taken. -/
def appendDigits (sum : Nat) : List Char → Nat × Nat
  | [] => (sum, 0)
  | c :: rest =>
    let next := 10 * sum + (c.toNat - '0'.toNat)
    if next < UInt64.size then
      let (total, count) := appendDigits next rest
      (total, count + 1)
    else (sum, 0)

/-- `x · 10 ^ exponent` by at most four multiplications or divisions; `none` where it
would be infinite. -/
def scaleByTen (x : Double) : Nat → Int → Option Double
  | fuel, exponent =>
    let power := Double.ofDecimal 1 exponent.natAbs
    if exponent.natAbs ≤ 308 then
      if 0 ≤ exponent then
        let product := x * power
        if product.isFinite then some product else none
      else some (x / power)
    else if x.isZero then some x
    else if 0 ≤ exponent then none
    else match fuel with
      | 0 => some ⟨0⟩
      | fuel + 1 => scaleByTen (x / Double.ofDecimal 1 308) fuel (exponent + 308)

/-- The parts of a written number. -/
structure NumberParts where
  negative : Bool
  whole : List Char
  fraction : Option (List Char)
  /-- The sign of the exponent and its digits. -/
  exponent : Option (Bool × List Char)

/-- The exponent of a written number; `none` for one that no word of thirty-two bits
holds. -/
def NumberParts.exponentValue? (parts : NumberParts) : Option Int :=
  match parts.exponent with
  | none => some 0
  | some (negative, digits) =>
    let size := (Text.digits? digits).getD 0
    if size < Nat.pow 2 31 then some (if negative then -(size : Int) else size) else none

/-- The double that the quick rule reads. -/
def NumberParts.quickDouble? (parts : NumberParts) : Option Double :=
  let (first, taken) := appendDigits 0 parts.whole
  let (digits, places) := appendDigits first (parts.fraction.getD [])
  let magnitude := match parts.exponentValue? with
    | some exponent =>
      scaleByTen (Double.ofNat digits) 4 (exponent + (parts.whole.length - taken : Nat) - places)
    | none =>
      if digits ≠ 0 && parts.exponent.any (fun (exponent : Bool × List Char) => !exponent.1) then none
      else some ⟨0⟩
  magnitude.map fun x => if parts.negative then -x else x

/-- The nearest double. Exponents far out of range are cut short. -/
def NumberParts.nearestDouble? (parts : NumberParts) : Option Double :=
  let fraction := parts.fraction.getD []
  let digits := (Text.digits? (parts.whole ++ fraction)).getD 0
  let exponent : Int := match parts.exponent with
    | none => 0
    | some (negative, text) =>
      let size := min ((Text.digits? text).getD 0) 100000
      if negative then -(size : Int) else size
  let x := Double.ofDecimal digits (exponent - fraction.length)
  if x.isFinite then some (if parts.negative then -x else x) else none

def NumberParts.toNumber? (exact : Bool) (parts : NumberParts) : Option Number :=
  let size := (Text.digits? parts.whole).getD 0
  let value : Int := if parts.negative then -(size : Int) else size
  if parts.fraction.isNone && parts.exponent.isNone && isWhole value
      && !(parts.negative && size == 0) then
    some (.int value)
  else (if exact then parts.nearestDouble? else parts.quickDouble?).map .double

/-- A run of digits at the start of a text; it must not be empty. -/
def readDigits? (text : List Char) : Option (List Char × List Char) :=
  let digits := text.takeWhile Char.isDigit
  if digits.isEmpty then none else some (digits, text.dropWhile Char.isDigit)

def readNumberParts? (text : List Char) : Option (NumberParts × List Char) := do
  let (negative, body) := match text with
    | '-' :: rest => (true, rest)
    | _ => (false, text)
  let (whole, afterWhole) ← readDigits? body
  if whole.head? = some '0' && whole.length ≠ 1 then none
  let (fraction, afterFraction) ← match afterWhole with
    | '.' :: rest => (readDigits? rest).map fun (digits, left) => (some digits, left)
    | _ => some (none, afterWhole)
  let (exponent, left) ← match afterFraction with
    | c :: rest =>
      if c = 'e' || c = 'E' then
        let (sign, digits) := match rest with
          | '-' :: tail => (true, tail)
          | '+' :: tail => (false, tail)
          | _ => (false, rest)
        (readDigits? digits).map fun (digits, left) => (some (sign, digits), left)
      else some (none, afterFraction)
    | [] => some (none, [])
  return (⟨negative, whole, fraction, exponent⟩, left)

def readNumber? (exact : Bool) (text : List Char) : Option (Number × List Char) := do
  let (parts, left) ← readNumberParts? text
  let number ← parts.toNumber? exact
  return (number, left)

/-! ## Strings -/

/-- The value of four hexadecimal digits. -/
def hexQuad? : List Char → Option (Nat × List Char)
  | a :: b :: c :: d :: rest => do
    let value ← [a, b, c, d].foldlM (fun sum digit => do
      let code := digit.toNat
      if digit.isDigit then return 16 * sum + (code - 48)
      else if 97 ≤ code && code ≤ 102 then return 16 * sum + (code - 87)
      else if 65 ≤ code && code ≤ 70 then return 16 * sum + (code - 55)
      else none) 0
    return (value, rest)
  | _ => none

/-- The character of a `\u` escape, which may take a second escape for its lower
half. -/
def readUnicodeEscape? (text : List Char) : Option (Char × List Char) := do
  let (unit, rest) ← hexQuad? text
  if 0xDC00 ≤ unit && unit ≤ 0xDFFF then none
  else if 0xD800 ≤ unit && unit ≤ 0xDBFF then
    match rest with
    | '\\' :: 'u' :: tail =>
      let (low, left) ← hexQuad? tail
      if 0xDC00 ≤ low && low ≤ 0xDFFF then
        return (Char.ofNat (0x10000 + (unit - 0xD800) * 0x400 + (low - 0xDC00)), left)
      else none
    | _ => none
  else return (Char.ofNat unit, rest)

/-- The character that a backslash and the next character stand for. -/
def simpleEscape? (c : Char) : Option Char :=
  match c with
  | '"' => some '"'
  | '\\' => some '\\'
  | '/' => some '/'
  | 'b' => some '\x08'
  | 'f' => some '\x0c'
  | 'n' => some '\n'
  | 'r' => some '\x0d'
  | 't' => some '\t'
  | _ => none

/-- The rest of a string after its opening quote. Each step takes a character. -/
def readStringTail? : Nat → List Char → List Char → Option (String × List Char)
  | 0, _, _ => none
  | fuel + 1, before, text =>
    match text with
    | [] => none
    | '"' :: rest => some (String.ofList before.reverse, rest)
    | '\\' :: 'u' :: rest => do
      let (c, left) ← readUnicodeEscape? rest
      readStringTail? fuel (c :: before) left
    | '\\' :: c :: rest => do
      let value ← simpleEscape? c
      readStringTail? fuel (value :: before) rest
    | c :: rest => if c.toNat < 0x20 || c = '\\' then none else readStringTail? fuel (c :: before) rest

def readString? (text : List Char) : Option (String × List Char) :=
  match text with
  | '"' :: rest => readStringTail? (rest.length + 1) [] rest
  | _ => none

/-! ## Values -/

mutual

/-- One value. `depth` counts the brackets that may still open. -/
def readValue? (rules : Rules) : Nat → Nat → List Char → Option (Json × List Char)
  | 0, _, _ => none
  | fuel + 1, depth, text =>
    match text with
    | '[' :: rest =>
      if depth = 0 then none
      else match skipSpace rest with
        | ']' :: left => some (.array [], left)
        | start => (readItems? rules fuel (depth - 1) start).map fun (items, left) =>
            (.array items, left)
    | '\x7b' :: rest =>
      if depth = 0 then none
      else match skipSpace rest with
        | '\x7d' :: left => some (.object [], left)
        | start => (readMembers? rules fuel (depth - 1) start).bind fun (members, left) =>
            let kept := (Table.ofList members).entries
            if rules.distinct && kept.length ≠ members.length then none else some (.object kept, left)
    | '"' :: _ => (readString? text).map fun (value, left) => (.string value, left)
    | 't' :: 'r' :: 'u' :: 'e' :: left => some (.bool true, left)
    | 'f' :: 'a' :: 'l' :: 's' :: 'e' :: left => some (.bool false, left)
    | 'n' :: 'u' :: 'l' :: 'l' :: left => some (.null, left)
    | _ => (readNumber? rules.exact text).map fun (value, left) => (.number value, left)

/-- The items of an array that is not empty, up to its closing bracket. -/
def readItems? (rules : Rules) : Nat → Nat → List Char → Option (List Json × List Char)
  | 0, _, _ => none
  | fuel + 1, depth, text => do
    let (item, afterItem) ← readValue? rules fuel depth text
    match skipSpace afterItem with
    | ']' :: left => return ([item], left)
    | ',' :: rest =>
      let (items, left) ← readItems? rules fuel depth (skipSpace rest)
      return (item :: items, left)
    | _ => none

/-- The members of an object that is not empty, up to its closing brace. -/
def readMembers? (rules : Rules) :
    Nat → Nat → List Char → Option (List (String × Json) × List Char)
  | 0, _, _ => none
  | fuel + 1, depth, text => do
    let (key, afterKey) ← readString? text
    match skipSpace afterKey with
    | ':' :: valueText =>
      let (value, afterValue) ← readValue? rules fuel depth (skipSpace valueText)
      match skipSpace afterValue with
      | '\x7d' :: left => return ([(key, value)], left)
      | ',' :: rest =>
        let (members, left) ← readMembers? rules fuel depth (skipSpace rest)
        return ((key, value) :: members, left)
      | _ => none
    | _ => none

end

/-- A text that is one value nested at most `depth` deep, with blanks around it. -/
def readNested? (rules : Rules) (depth : Nat) (text : String) : Option Json := do
  let start := skipSpace text.toList
  let (value, left) ← readValue? rules (2 * start.length + 2) depth start
  if (skipSpace left).isEmpty then some value else none

/-- The value of a text; of members with one key the last counts. -/
def read? (text : String) : Option Json :=
  readNested? ⟨false, false⟩ maxNesting text

/-- The value of a text in which no object repeats a key. -/
def readDistinct? (text : String) : Option Json :=
  readNested? ⟨true, false⟩ maxNesting text

end ServerRender.Json
