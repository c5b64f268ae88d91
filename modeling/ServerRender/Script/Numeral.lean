import ServerRender.Decimal.Style
import ServerRender.Text.Numeral
import ServerRender.Text.Units

/-!
# Numbers as text

How scripts write numbers and read them from strings. A string may have blanks around
its number; an empty one is zero, and one with anything else in it is no number.
-/

namespace ServerRender.Script

namespace Lexeme

def isLineEnd (c : Char) : Bool :=
  c == '\n' || c == '\x0d' || c.toNat == 0x2028 || c.toNat == 0x2029

def isSpace (c : Char) : Bool :=
  isLineEnd c || c == ' ' || c == '\t' || c == '\x0b' || c == '\x0c'
    || [0xA0, 0xFEFF, 0x1680, 0x202F, 0x205F, 0x3000].contains c.toNat
    || 0x2000 ≤ c.toNat && c.toNat ≤ 0x200A

/-- A text without the blanks around it. -/
def trim (text : List Char) : List Char :=
  ((text.dropWhile isSpace).reverse.dropWhile isSpace).reverse

/-- The value of a digit in a base up to thirty-six. -/
def digitIn? (base : Nat) (c : Char) : Option Nat :=
  let value :=
    if c.isDigit then c.toNat - 48
    else if 'a' ≤ c && c ≤ 'z' then c.toNat - 87
    else if 'A' ≤ c && c ≤ 'Z' then c.toNat - 55
    else 99
  if value < base then some value else none

/-- The value of digits; other characters count as zero. -/
def valueIn (base : Nat) (digits : List Char) : Nat :=
  digits.foldl (fun sum c => base * sum + (digitIn? base c).getD 0) 0

/-- The value of a text of digits alone. -/
def wholeIn? (base : Nat) (digits : List Char) : Option Nat :=
  if !digits.isEmpty && digits.all fun c => (digitIn? base c).isSome then some (valueIn base digits)
  else none

/-- The base that a number names by its first characters, and its digits. -/
def based? (text : List Char) : Option (Nat × List Char) :=
  match text with
  | '0' :: mark :: digits =>
    if mark = 'x' || mark = 'X' then some (16, digits)
    else if mark = 'o' || mark = 'O' then some (8, digits)
    else if mark = 'b' || mark = 'B' then some (2, digits)
    else none
  | _ => none

/-- A sign in front of a text; a minus counts. -/
def takeSign (text : List Char) : Bool × List Char :=
  match text with
  | '-' :: rest => (true, rest)
  | '+' :: rest => (false, rest)
  | _ => (false, text)

/-- The longest decimal number at the start of a text without sign, and what follows. -/
def takeDecimal? (text : List Char) : Option (Double × List Char) :=
  let whole := text.takeWhile Char.isDigit
  let afterWhole := text.dropWhile Char.isDigit
  let (fraction, afterFraction) := match afterWhole with
    | '.' :: rest =>
      if whole.isEmpty && !(rest.head?.map Char.isDigit).getD false then ([], afterWhole)
      else (rest.takeWhile Char.isDigit, rest.dropWhile Char.isDigit)
    | _ => ([], afterWhole)
  if whole.isEmpty && fraction.isEmpty then none
  else
    let (exponent, left) : Int × List Char := match afterFraction with
      | c :: rest =>
        let (negative, body) := takeSign rest
        let digits := body.takeWhile Char.isDigit
        if (c = 'e' || c = 'E') && !digits.isEmpty then
          let size : Int := min (valueIn 10 digits) 100000
          (if negative then -size else size, body.dropWhile Char.isDigit)
        else (0, afterFraction)
      | [] => (0, [])
    some (.ofDecimal (valueIn 10 (whole ++ fraction)) (exponent - fraction.length), left)

/-- The number that starts a text, after blanks; what follows it does not matter. -/
def leadingNumber (text : List Char) : Double :=
  let (negative, body) := takeSign (text.dropWhile isSpace)
  let size :=
    if "Infinity".toList.isPrefixOf body then Double.infinity
    else ((takeDecimal? body).map (·.1)).getD Double.notANumber
  if negative && !size.isNaN then -size else size

/-- The number that a string stands for. -/
def numberOfText (content : String) : Double :=
  let trimmed := trim content.toList
  if trimmed.isEmpty then .ofNat 0
  else match based? trimmed with
    | some (base, digits) =>
      ((wholeIn? base digits).map fun n => Double.ofDecimal n 0).getD .notANumber
    | none =>
      let (negative, body) := takeSign trimmed
      let size :=
        if body = "Infinity".toList then Double.infinity
        else match takeDecimal? body with
          | some (value, []) => value
          | _ => Double.notANumber
      if negative && !size.isNaN then -size else size

/-- The whole number that a string stands for. -/
def bigintOfText? (content : String) : Option Int :=
  let trimmed := trim content.toList
  if trimmed.isEmpty then some 0
  else match based? trimmed with
    | some (base, digits) => (wholeIn? base digits).map Int.ofNat
    | none =>
      let (negative, body) := takeSign trimmed
      (wholeIn? 10 body).map fun n => if negative then -(n : Int) else n

end Lexeme

/-- Numbers are written out from a millionth to below `10 ^ 21`, without `.0`. -/
def numberStyle : DecimalStyle :=
  ⟨-6, 21, false⟩

/-- The text of a number but for zero, which has no sign in text. -/
def numberText (x : Double) : String :=
  if x.isNaN then "NaN"
  else if !x.isFinite then (if x.isNegative then "-Infinity" else "Infinity")
  else numberStyle.write x

/-- The text of a number in a script. -/
def textOfNumber (x : Double) : String :=
  if x.isZero then "0" else numberText x

end ServerRender.Script
