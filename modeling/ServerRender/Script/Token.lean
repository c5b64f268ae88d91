import ServerRender.Script.Expression
import ServerRender.Script.Numeral
import ServerRender.Script.Pattern

/-!
# Tokens

The words, literals and marks of a script with their positions. A text that is no
token ends the list with its error, so that a parser meets faults in their order. A
slash is read as a division where a value may end; every token keeps the text that it
starts, from which a parser can read a pattern instead.
-/

namespace ServerRender.Script

inductive Token where
  /-- An identifier or a keyword. -/
  | word (name : String)
  /-- A name behind a number sign. -/
  | privateName (name : String)
  | number (value : Double)
  | bigint (value : Int)
  | text (content : List UInt16)
  /-- The first part of a template as it is written, up to a value or to the end. -/
  | template (written : List UInt16) (isLast : Bool)
  /-- The part of a template behind a value. -/
  | templateRest (written : List UInt16) (isLast : Bool)
  | pattern (body flags : String)
  | mark (spelling : String)
  /-- An expression that has been made elsewhere. -/
  | given (value : Expression)
  | fault (error : NativeError)
  deriving Inhabited

/-- Numbers in messages are written out whatever their size. -/
def spelledNumberStyle : DecimalStyle :=
  ⟨-400, 400, false⟩

/-- How a message names the token. -/
def Token.spelling : Token → String
  | word name => name
  | privateName name => "#" ++ name
  | number value => if value.isFinite then spelledNumberStyle.write value else "inf"
  | bigint value => toString value ++ "n"
  | text content => Text.ofUnits content
  | template written _ => Text.ofUnits written
  | templateRest written _ => Text.ofUnits written
  | pattern body flags => "/" ++ body ++ "/" ++ flags
  | mark spelling => spelling
  | _ => ""

structure PlacedToken where
  token : Token
  position : Position
  /-- Whether it is the first one on its line. -/
  startsLine : Bool
  /-- The text from the token on. -/
  onward : List Char
  deriving Inhabited

namespace Lexeme

/-- The marks, longer ones before those that they start with. -/
def marks : List String :=
  [">>>=", "...", "===", "!==", "**=", "<<=", ">>=", ">>>", "&&=", "||=", "??=", "=>", "==", "!=",
    "<=", ">=", "&&", "||", "??", "?.", "++", "--", "+=", "-=", "*=", "/=", "%=", "&=", "|=", "^=",
    "<<", ">>", "**", "\x7b", "\x7d", "(", ")", "[", "]", ",", ";", ":", ".", "+", "-", "*", "/", "%",
    "=", "<", ">", "!", "&", "|", "?", "~", "^"]

/-- The position behind some characters. A carriage return and a line feed end one line. -/
def advance (position : Position) : List Char → Position
  | [] => position
  | '\x0d' :: '\n' :: rest => advance ⟨position.line + 1, 1⟩ rest
  | c :: rest =>
    advance (if isLineEnd c then ⟨position.line + 1, 1⟩ else ⟨position.line, position.column + 1⟩) rest

/-- The position so many characters behind another on its line. -/
def shift (position : Position) (offset : Nat) : Position :=
  ⟨position.line, position.column + offset⟩

/-- How many characters a comment of several lines takes behind its start; `none` where
it is not closed. -/
def commentLength? (count : Nat) : List Char → Option Nat
  | '*' :: '/' :: _ => some (count + 2)
  | _ :: rest => commentLength? (count + 1) rest
  | [] => none

/-! ## Strings -/

def unclosedEscape : NativeError :=
  syntaxError "unterminated escape sequence in literal"

/-- What an escape stands for or what is wrong with it, and how many characters it
takes behind its backslash. A template has no octal escapes. -/
def readEscape (inTemplate : Bool) (text : List Char) : Except String (List UInt16) × Nat :=
  let isOctal (c : Char) : Bool := (digitIn? 8 c).isSome
  let areHex (digits : List Char) : Bool := digits.all fun c => (digitIn? 16 c).isSome
  let unit (n : Nat) : Except String (List UInt16) := .ok [UInt16.ofNat n]
  match text with
  | 'u' :: '\x7b' :: rest =>
    let digits := rest.takeWhile (· != '\x7d')
    let code := valueIn 16 digits
    let value : Except String (List UInt16) :=
      if digits.isEmpty || !areHex digits then .error "malformed Unicode character escape sequence"
      else if code > 0x10FFFF then
        .error "Unicode codepoint must not be greater than 0x10FFFF in escape sequence"
      else if 0xD800 ≤ code && code < 0xE000 then unit code
      else .ok (Text.unitsOfChar (Char.ofNat code))
    (value, digits.length + 3)
  | 'u' :: rest =>
    let digits := rest.take 4
    let body := if digits.head? = some '+' then digits.tail else digits
    (if digits.length = 4 && areHex body then unit (valueIn 16 body)
      else .error "invalid Unicode escape sequence", 5)
  | 'x' :: rest =>
    let digits := rest.take 2
    (if digits.length = 2 && areHex digits then unit (valueIn 16 digits)
      else .error "invalid Hexadecimal escape sequence", 3)
  | 'b' :: _ => (unit 8, 1)
  | 't' :: _ => (unit 9, 1)
  | 'n' :: _ => (unit 10, 1)
  | 'v' :: _ => (unit 11, 1)
  | 'f' :: _ => (unit 12, 1)
  | 'r' :: _ => (unit 13, 1)
  | '\x0d' :: '\n' :: _ => (.ok [], 2)
  | c :: rest =>
    if isLineEnd c then (.ok [], 1)
    else if c = '0' && !((rest.head?.map Char.isDigit).getD false) then (unit 0, 1)
    else if inTemplate && (c = '8' || c = '9') then
      (.error "\\8 and \\9 are not allowed in template literal", 1)
    else if isOctal c then
      let more := (rest.take (if c ≤ '3' then 2 else 1)).takeWhile isOctal
      if inTemplate then (.error "octal escape sequences are not allowed in template literal", 1)
      else (unit (valueIn 8 (c :: more)), more.length + 1)
    else (.ok (Text.unitsOfChar c), 1)
  | [] => (.ok [], 1)

/-- A string after its opening quote: its content and how many characters it takes.
`before` holds the units so far, the last first. -/
def readText (quote : Char) :
    Nat → List UInt16 → Nat → Position → List Char → Except NativeError (List UInt16 × Nat)
  | 0, _, _, _, _ => .error unclosedEscape
  | fuel + 1, before, count, position, text =>
    match text with
    | ['\\'] => .error unclosedEscape
    | '\\' :: rest =>
      let (escape, size) := readEscape false rest
      match escape with
      | .error message => .error (syntaxErrorAt message position)
      | .ok units =>
        readText quote fuel (units.reverse ++ before) (count + size + 1)
          (advance position (text.take (size + 1))) (rest.drop size)
    | c :: rest =>
      if c = quote then .ok (before.reverse, count + 1)
      else if c = '\n' || c = '\x0d' then .error (syntaxError "unterminated string literal")
      else
        readText quote fuel ((Text.unitsOfChar c).reverse ++ before) (count + 1)
          (advance position [c]) rest
    | [] => .error (syntaxError "unterminated string literal")

/-- A part of a template: its characters, the last first, whether it is the last part,
and how many characters it takes with its end. A line end of two characters counts as
one. -/
def readTemplate : List Char → Nat → List Char → Except NativeError (List Char × Bool × Nat)
  | before, count, text =>
    match text with
    | '\x60' :: _ => .ok (before, true, count + 1)
    | '$' :: '\x7b' :: _ => .ok (before, false, count + 2)
    | ['\\'] => .error unclosedEscape
    | '\\' :: c :: rest =>
      if c = '\x60' || c = '$' || c = '\\' then readTemplate (c :: '\\' :: before) (count + 2) rest
      else readTemplate ('\\' :: before) (count + 1) (c :: rest)
    | '\x0d' :: '\n' :: rest => readTemplate ('\n' :: before) (count + 2) rest
    | '\x0d' :: rest => readTemplate ('\n' :: before) (count + 1) rest
    | c :: rest => readTemplate (c :: before) (count + 1) rest
    | [] => .error (syntaxError "unterminated template literal")
termination_by _ _ text => text.length

/-- The content of a part of a template by the text that it is written with, which
starts at a position. -/
def cook : Nat → Position → List UInt16 → List Char → Except NativeError (List UInt16)
  | 0, _, before, _ => .ok before.reverse
  | fuel + 1, position, before, text =>
    match text with
    | '\\' :: rest =>
      let (escape, size) := readEscape true rest
      match escape with
      | .error message => .error (syntaxErrorAt message position)
      | .ok units =>
        cook fuel (advance position (text.take (size + 1))) (units.reverse ++ before)
          (rest.drop size)
    | c :: rest => cook fuel (advance position [c]) ((Text.unitsOfChar c).reverse ++ before) rest
    | [] => .ok before.reverse

/-! ## Numbers -/

/-- A message and how many characters behind the start of a number it points. -/
abbrev Numeric (α : Type) := Except (String × Nat) α

/-- Digits with single underscores between them: the digits, the count of all
characters taken so far, and what follows. -/
def takeDigits (base : Nat) (afterUnderscore : Bool) (count : Nat) :
    List Char → Numeric (List Char × Nat × List Char)
  | [] =>
    if afterUnderscore then
      .error ("underscores are not allowed at the end of numeric literals", count - 1)
    else .ok ([], count, [])
  | c :: rest =>
    if c = '_' then
      if afterUnderscore then .error ("only one underscore is allowed as numeric separator", count)
      else takeDigits base true (count + 1) rest
    else if (digitIn? base c).isSome then
      (takeDigits base false (count + 1) rest).map fun (digits, last, left) =>
        (c :: digits, last, left)
    else if afterUnderscore then
      .error ("underscores are not allowed at the end of numeric literals", count - 1)
    else .ok ([], count, c :: rest)

/-- The exponent of a number, if one follows. -/
def takeExponent (count : Nat) (text : List Char) : Numeric (Int × Nat × List Char) :=
  let digitsOf (negative : Bool) (count : Nat) (text : List Char) : Numeric (Int × Nat × List Char) :=
    (takeDigits 10 false count text).map fun (digits, last, left) =>
      let size : Int := min ((Text.digits? digits).getD 0) 100000
      (if negative then -size else size, last, left)
  let startsDigit (text : List Char) : Bool := (text.head?.map Char.isDigit).getD false
  match text with
  | c :: rest =>
    if c = 'e' || c = 'E' then
      match rest with
      | '+' :: tail =>
        if startsDigit tail then digitsOf false (count + 2) tail
        else .error ("No digit found after + symbol", count + 2)
      | '-' :: tail =>
        if startsDigit tail then digitsOf true (count + 2) tail
        else .error ("No digit found after - symbol", count + 2)
      | [] => .error ("No exponential value found", count + 1)
      | _ =>
        if startsDigit rest then digitsOf false (count + 1) rest
        else .error ("When lexing exponential value found unexpected char", count + 2)
    else .ok (0, count, text)
  | [] => .ok (0, count, [])

/-- A whole number in a base other than ten behind its mark of two characters. -/
def takeBased (base : Nat) (name : String) (text : List Char) : Numeric (Token × Nat × List Char) :=
  if ((text.head?.bind (digitIn? base)).isSome) then do
    let (digits, count, left) ← takeDigits base false 2 text
    match left with
    | 'n' :: rest => return (.bigint (valueIn base digits), count + 1, rest)
    | _ => return (.number (.ofDecimal (valueIn base digits) 0), count, left)
  else .error ("expected " ++ name ++ " digit after number base prefix", 2)

/-- The part of a decimal number behind its point. -/
def takeFraction (whole : List Char) (count : Nat) (text : List Char) :
    Numeric (Token × Nat × List Char) :=
  if text.head? = some '_' then .error ("separator can not be after '.'", count)
  else do
    let (fraction, count, afterFraction) ← takeDigits 10 false count text
    let (exponent, count, left) ← takeExponent count afterFraction
    let digits := (Text.digits? (whole ++ fraction)).getD 0
    return (.number (.ofDecimal digits (exponent - fraction.length)), count, left)

/-- What follows the whole digits of a decimal number. -/
def takeDecimalRest (whole : List Char) (count : Nat) (text : List Char) :
    Numeric (Token × Nat × List Char) :=
  match text with
  | '.' :: rest => takeFraction whole (count + 1) rest
  | _ => do
    let (exponent, count, rest) ← takeExponent count text
    return (.number (.ofDecimal (valueIn 10 whole) exponent), count, rest)

/-- A number of several digits of which the first is zero. It is octal if its digits
are and no exponent follows. -/
def takeLeadingZero (text : List Char) : Numeric (Token × Nat × List Char) :=
  let octal := text.takeWhile fun c => (digitIn? 8 c).isSome
  let digits := text.takeWhile Char.isDigit
  let isOctal := octal.length = digits.length
  let count := digits.length
  match text.drop count with
  | '_' :: _ => .error ("separator is not allowed", count)
  | 'n' :: _ => .error ("'n' suffix not allowed in octal representation", count)
  | left =>
    let isExponent := left.head? = some 'e' || left.head? = some 'E'
    if isOctal && !isExponent then .ok (.number (.ofDecimal (valueIn 8 octal) 0), count, left)
    else takeDecimalRest digits count left

/-- A number at the start of a text. -/
def takeNumber (text : List Char) : Numeric (Token × Nat × List Char) :=
  match text with
  | '0' :: 'x' :: rest => takeBased 16 "hexadecimal" rest
  | '0' :: 'X' :: rest => takeBased 16 "hexadecimal" rest
  | '0' :: 'o' :: rest => takeBased 8 "octal" rest
  | '0' :: 'O' :: rest => takeBased 8 "octal" rest
  | '0' :: 'b' :: rest => takeBased 2 "binary" rest
  | '0' :: 'B' :: rest => takeBased 2 "binary" rest
  | '.' :: rest => takeFraction [] 1 rest
  | _ => do
    if text.head? = some '0' && (text.tail.head?.map Char.isDigit).getD false then
      takeLeadingZero text
    else
      let (whole, count, left) ← takeDigits 10 false 0 text
      match left with
      | 'n' :: rest => return (.bigint (valueIn 10 whole), count + 1, rest)
      | _ => takeDecimalRest whole count left

/-- The token of a number, which no letter may follow, and how many characters it takes. -/
def readNumber (position : Position) (text : List Char) : Token × Nat :=
  let fault (message : String) (offset : Nat) : Token × Nat :=
    (.fault (syntaxErrorAt message (shift position offset)), text.length)
  match takeNumber text with
  | .error (message, offset) => fault message offset
  | .ok (token, count, left) =>
    if (left.head?.map fun c => c.isAlphanum || c == '$' || c == '_').getD false then
      fault "a numeric literal must not be followed by an alphanumeric, $ or _ characters" count
    else (token, count)

/-! ## Patterns -/

/-- How many characters the body of a pattern takes after its opening slash. -/
def patternLength (inClass : Bool) (count : Nat) : List Char → Except (Option Char) Nat
  | [] => .error none
  | '\\' :: c :: rest =>
    if isLineEnd c then .error (some c) else patternLength inClass (count + 2) rest
  | c :: rest =>
    if isLineEnd c then .error (some c)
    else if c = '/' && !inClass then .ok count
    else patternLength (if c = '[' then true else if c = ']' then false else inClass) (count + 1)
      rest

/-- The pattern at the start of a text and how many characters it takes. -/
def readPattern (position : Position) (text : List Char) : Token × Nat :=
  let fault (error : NativeError) : Token × Nat := (.fault error, text.length)
  match patternLength false 0 text.tail with
  | .error none => fault (syntaxError "abrupt end on regex literal")
  | .error (some _) =>
    fault (syntaxErrorAt "new lines are not allowed in regular expressions" position)
  | .ok size =>
    let body := String.ofList (text.tail.take size)
    let flags := (text.drop (size + 2)).takeWhile Char.isAlpha
    match Pattern.flagFault? flags with
    | some message => fault (syntaxErrorAt message (shift position (size + 2)))
    | none =>
      match Pattern.compile body (String.ofList flags) with
      | .error message =>
        fault (syntaxErrorAt ("Invalid regular expression literal: " ++ message) position)
      | .ok _ => (.pattern body (String.ofList flags), size + flags.length + 2)

/-! ## Names -/

/-- The name at the start of a text and how many characters it takes, escapes included;
or what is wrong with it and where. `isStart` says whether a first character is due, and
`before` holds the characters so far, the last first. -/
def readName :
    Nat → (isStart : Bool) → List Char → Nat → List Char → Except (String × Nat) (String × Nat)
  | 0, _, before, count, _ => .ok (String.ofList before.reverse, count)
  | fuel + 1, isStart, before, count, text =>
    let fits (c : Char) : Bool := if isStart then Text.isNameStart c else Text.isNamePart c
    match text with
    | '\\' :: 'u' :: rest =>
      match readEscape false ('u' :: rest) with
      | (.error message, _) => .error (message, count)
      | (.ok units, size) =>
        match (Text.ofUnits units).toList with
        | [c] =>
          if fits c then readName fuel false (c :: before) (count + size + 1) (text.drop (size + 1))
          else .error ("invalid identifier " ++ (if isStart then "start" else "part"), count)
        | _ => .error ("invalid identifier " ++ (if isStart then "start" else "part"), count)
    | c :: rest =>
      if fits c then readName fuel false (c :: before) (count + 1) rest
      else .ok (String.ofList before.reverse, count)
    | [] => .ok (String.ofList before.reverse, count)

/-! ## Tokens -/

/-- Words behind which a value is due. -/
def wordsBeforeValues : List String :=
  ["return", "typeof", "void", "delete", "throw", "in", "instanceof", "case", "do", "else", "new",
    "extends", "of"]

/-- Whether a slash behind the token divides. -/
def Token.endsValue : Token → Bool
  | .word name => !(wordsBeforeValues.contains name)
  | .mark spelling => [")", "]", "\x7d"].contains spelling
  | .template _ isLast => isLast
  | .templateRest _ isLast => isLast
  | .fault _ => false
  | _ => true

/-- The token at the start of a text that starts with no blank, and how many characters
it takes. The room is more than the text has characters. -/
def read (room : Nat) (position : Position) (divides inTemplate : Bool) (text : List Char) :
    Token × Nat :=
  let one := text.headD ' '
  let next := text.tail.headD ' '
  let fault (message : String) : Token × Nat :=
    (.fault (syntaxErrorAt message position), text.length)
  let template (make : List UInt16 → Bool → Token) : Token × Nat :=
    match readTemplate [] 1 text.tail with
    | .ok (before, isLast, count) =>
      (make (Text.units (String.ofList before.reverse)) isLast, count)
    | .error error => (.fault error, text.length)
  if Text.isNameStart one || (one == '\\' && next == 'u') then
    match readName room true [] 0 text with
    | .ok (name, count) => (.word name, count)
    | .error (message, offset) =>
      (.fault (syntaxErrorAt message (shift position offset)), text.length)
  else if one == '"' || one == '\'' then
    match readText one room [] 1 (advance position [one]) text.tail with
    | .ok (content, count) => (.text content, count)
    | .error error => (.fault error, text.length)
  else if one == '\x60' then template .template
  else if one == '\x7d' && inTemplate then template .templateRest
  else if one.isDigit || (one == '.' && next.isDigit) then readNumber position text
  else if one == '#' then
    if Text.isNameStart next || (next == '\\' && text.tail.tail.head? == some 'u') then
      match readName room true [] 1 text.tail with
      | .ok (name, count) => (.privateName name, count)
      | .error (message, offset) =>
        (.fault (syntaxErrorAt message (shift position offset)), text.length)
    else fault "Abrupt end: Expecting private identifier"
  else if one == '/' && !divides then readPattern position text
  else
    match marks.find? fun mark => mark.toList.isPrefixOf text with
    | some mark =>
      if mark = "?." && (text.tail.tail.headD ' ').isDigit then (.mark "?", 1)
      else (.mark mark, mark.length)
    | none =>
      fault ("unexpected '" ++ String.ofList [one] ++ "' at line " ++ toString position.line
        ++ ", column " ++ toString position.column)

/-- The braces that are open behind a token, the innermost first; one that stands in a
template is marked. -/
def bracesBehind (token : Token) (braces : List Bool) : List Bool :=
  match token with
  | .mark "\x7b" => false :: braces
  | .mark "\x7d" => braces.tail
  | .template _ isLast => if isLast then braces else true :: braces
  | .templateRest _ isLast => if isLast then braces.tail else braces
  | _ => braces

/-- The tokens of a text that starts at a position, behind those in `before`, the last
first. Each step takes a blank, a comment or a token. -/
def readAll :
    Nat → Position → (startsLine divides : Bool) → List Bool → List PlacedToken → List Char →
    List PlacedToken
  | 0, _, _, _, _, before, _ => before.reverse
  | fuel + 1, position, startsLine, divides, braces, before, text =>
    let skip (count : Nat) :=
      let passed := text.take count
      readAll fuel (advance position passed) (startsLine || passed.any isLineEnd) divides braces before
        (text.drop count)
    match text with
    | [] => before.reverse
    | '/' :: '/' :: rest => skip ((rest.takeWhile fun c => !isLineEnd c).length + 2)
    | '/' :: '*' :: rest =>
      match commentLength? 2 rest with
      | some count => skip count
      | none =>
        (⟨.fault (syntaxErrorAt "unterminated multiline comment" position), position, startsLine, text⟩
          :: before).reverse
    | c :: _ =>
      if isSpace c then skip (text.takeWhile isSpace).length
      else
        let (token, count) := read (fuel + 1) position divides (braces.headD false) text
        readAll fuel (advance position (text.take count)) false (Token.endsValue token)
          (bracesBehind token braces) (⟨token, position, startsLine, text⟩ :: before) (text.drop count)

/-- The tokens from one that starts with a slash on, if it starts a pattern. -/
def rereadPattern (token : PlacedToken) : List PlacedToken :=
  let (pattern, count) := readPattern token.position token.onward
  { token with token := pattern }
    :: readAll (token.onward.length + 1) (advance token.position (token.onward.take count)) false true
      [] [] (token.onward.drop count)

end Lexeme

def tokens (firstLine : Nat) (text : String) : List PlacedToken :=
  Lexeme.readAll (text.length + 1) ⟨firstLine, 1⟩ true false [] [] text.toList

end ServerRender.Script
