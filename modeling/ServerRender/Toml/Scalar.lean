import ServerRender.Decimal.Double
import ServerRender.Text.Numeral
import ServerRender.Toml.Lexeme

/-!
# Numbers and moments of TOML

Whole numbers of a signed word of sixty-four bits, floats, and dates and times of the
Gregorian calendar. An underscore may stand between two digits of a number.
-/

namespace ServerRender.Toml

/-! ## Numbers -/

/-- The digits at the start of a text, and what follows them. -/
def digitRun (isDigit : Char → Bool) : List Char → List Char × List Char
  | '_' :: c :: rest =>
    if isDigit c then
      let (digits, left) := digitRun isDigit rest
      (c :: digits, left)
    else ([], '_' :: c :: rest)
  | c :: rest =>
    if isDigit c then
      let (digits, left) := digitRun isDigit rest
      (c :: digits, left)
    else ([], c :: rest)
  | [] => ([], [])

/-- Digits of which the first is not an underscore. -/
def readDigits? (isDigit : Char → Bool) (text : List Char) : Option (List Char × List Char) :=
  match text with
  | c :: rest =>
    if isDigit c then
      let (digits, left) := digitRun isDigit rest
      some (c :: digits, left)
    else none
  | [] => none

def readSign (text : List Char) : Bool × List Char :=
  match text with
  | '-' :: rest => (true, rest)
  | '+' :: rest => (false, rest)
  | _ => (false, text)

/-- Decimal digits without a leading zero, or a zero. -/
def readDecimal? (text : List Char) : Option (List Char × List Char) :=
  match text with
  | '0' :: rest => some (['0'], rest)
  | _ => readDigits? Char.isDigit text

def isHexDigit (c : Char) : Bool :=
  c.isDigit || ('a' ≤ c && c ≤ 'f') || ('A' ≤ c && c ≤ 'F')

def hexDigitValue (c : Char) : Nat :=
  if c.isDigit then c.toNat - 48 else if 'a' ≤ c then c.toNat - 87 else c.toNat - 55

/-- A whole number, if it fits its word. -/
def integer? (negative : Bool) (base : Nat) (digits : List Char) : Option Toml :=
  let size : Int := digits.foldl (fun sum c => base * sum + hexDigitValue c) 0
  let value := if negative then -size else size
  if -(Nat.pow 2 63 : Int) ≤ value && value < (Nat.pow 2 63 : Int) then some (.integer value) else none

def readInteger? (text : List Char) : Option (Toml × List Char) := do
  match text with
  | '0' :: 'x' :: rest =>
    let (digits, left) ← readDigits? isHexDigit rest
    return (← integer? false 16 digits, left)
  | '0' :: 'o' :: rest =>
    let (digits, left) ← readDigits? (fun c => '0' ≤ c && c ≤ '7') rest
    return (← integer? false 8 digits, left)
  | '0' :: 'b' :: rest =>
    let (digits, left) ← readDigits? (fun c => c == '0' || c == '1') rest
    return (← integer? false 2 digits, left)
  | _ =>
    let (negative, body) := readSign text
    let (digits, left) ← readDecimal? body
    return (← integer? negative 10 digits, left)

/-- The exponent of a float. -/
def readExponent? (text : List Char) : Option (Int × List Char) :=
  match text with
  | c :: rest =>
    if c = 'e' || c = 'E' then do
      let (negative, body) := readSign rest
      let (digits, left) ← readDigits? Char.isDigit body
      let size : Int := (Text.digits? digits).getD 0
      return (if negative then -size else size, left)
    else none
  | [] => none

/-- A float has a fraction or an exponent; one above the largest double is refused. -/
def readFloat? (text : List Char) : Option (Toml × List Char) := do
  let (negative, body) := readSign text
  match body with
  | 'i' :: 'n' :: 'f' :: left => return (.float "inf", left)
  | 'n' :: 'a' :: 'n' :: left => return (.float "nan", left)
  | _ =>
    let (whole, afterWhole) ← readDecimal? body
    let (fraction, afterFraction) ← match afterWhole with
      | '.' :: rest => readDigits? Char.isDigit rest
      | _ => (readExponent? afterWhole).map fun _ => ([], afterWhole)
    let (exponent, left) := (readExponent? afterFraction).getD (0, afterFraction)
    let digits := (Text.digits? (whole ++ fraction)).getD 0
    let digitCount : Int := (Nat.toDigits 10 digits).length
    let place := exponent - fraction.length
    if !negative && digits ≠ 0 && (309 < digitCount + place
        || (-400 < digitCount + place && !(Double.ofDecimal digits place).isFinite)) then none
    else return (.float (String.ofList (text.take (text.length - left.length))), left)

/-! ## Moments -/

/-- Exactly `count` digits with a value in a range. -/
def readField? (count low high : Nat) (text : List Char) : Option (Nat × List Char) := do
  let digits := text.take count
  if digits.length = count && digits.all Char.isDigit then
    let value ← Text.digits? digits
    if low ≤ value && value ≤ high then return (value, text.drop count) else none
  else none

def daysInMonth (year month : Nat) : Nat :=
  if month = 2 then
    if (year % 4 = 0 && year % 100 ≠ 0) || year % 400 = 0 then 29 else 28
  else if month = 4 || month = 6 || month = 9 || month = 11 then 30
  else 31

/-- What follows a date. -/
def afterDate? (text : List Char) : Option (List Char) := do
  let (year, rest) ← readField? 4 0 9999 text
  let .cons '-' rest := rest | none
  let (month, rest) ← readField? 2 1 12 rest
  let .cons '-' rest := rest | none
  let (_, left) ← readField? 2 1 (daysInMonth year month) rest
  return left

/-- What follows a time of day. -/
def afterTime? (text : List Char) : Option (List Char) := do
  let (_, rest) ← readField? 2 0 23 text
  let .cons ':' rest := rest | none
  let (_, rest) ← readField? 2 0 59 rest
  let .cons ':' rest := rest | none
  let (_, rest) ← readField? 2 0 60 rest
  match rest with
  | '.' :: c :: left => if c.isDigit then return left.dropWhile Char.isDigit else return rest
  | _ => return rest

/-- Passes over the offset of a moment from universal time, if one follows. -/
def afterOffset? (text : List Char) : Option (List Char) :=
  match text with
  | 'Z' :: left => some left
  | 'z' :: left => some left
  | c :: rest =>
    if c = '+' || c = '-' then do
      let (_, rest) ← readField? 2 0 23 rest
      let .cons ':' rest := rest | none
      let (_, left) ← readField? 2 0 59 rest
      return left
    else some text
  | [] => some text

/-- What follows a moment: a date, a time, or a date and a time with an offset. -/
def afterMoment? (text : List Char) : Option (List Char) :=
  match afterDate? text with
  | some (c :: rest) =>
    if c = 'T' || c = 't' || c = ' ' then
      match afterTime? rest with
      | some left => afterOffset? left
      | none => if c = ' ' then some (c :: rest) else none
    else some (c :: rest)
  | some [] => some []
  | none => afterTime? text

def readMoment? (text : List Char) : Option (Toml × List Char) :=
  (afterMoment? text).map fun left =>
    (.moment (String.ofList (text.take (text.length - left.length))), left)

end ServerRender.Toml
