import ServerRender.Json.Basic
import ServerRender.Script.Numeral

/-!
# JSON texts and their faults

Reads a JSON text, or says what is wrong with it and where: at the character that was
looked at, or behind what has been read. Columns count bytes.
-/

namespace ServerRender.Script

namespace JsonText

inductive Fault where
  | endInList
  | endInObject
  | endInString
  | endInValue
  | noColon
  | noListEnd
  | noObjectEnd
  | noWord
  | noValue
  | badEscape
  | badNumber
  | tooLarge
  | controlCharacter
  | noKey
  | loneSurrogate
  | extraComma
  | extraCharacters
  | hexEnd
  | tooDeep
  deriving DecidableEq, Inhabited

def Fault.message : Fault → String
  | endInList => "EOF while parsing a list"
  | endInObject => "EOF while parsing an object"
  | endInString => "EOF while parsing a string"
  | endInValue => "EOF while parsing a value"
  | noColon => "expected \x60:\x60"
  | noListEnd => "expected \x60,\x60 or \x60]\x60"
  | noObjectEnd => "expected \x60,\x60 or \x60\x7d\x60"
  | noWord => "expected ident"
  | noValue => "expected value"
  | badEscape => "invalid escape"
  | badNumber => "invalid number"
  | tooLarge => "number out of range"
  | controlCharacter => "control character (\\u0000-\\u001F) found while parsing a string"
  | noKey => "key must be a string"
  | loneSurrogate => "lone leading surrogate in hex escape"
  | extraComma => "trailing comma"
  | extraCharacters => "trailing characters"
  | hexEnd => "unexpected end of hex escape"
  | tooDeep => "recursion limit exceeded"

/-- A fault, whether it is the next character, and the text from there on. -/
structure Stop where
  fault : Fault
  isAhead : Bool
  rest : List Char

abbrev Reading := StateT (List Char) (Except Stop)

/-- A fault behind what has been read. -/
def stop (fault : Fault) : Reading α := fun rest => .error ⟨fault, false, rest⟩

/-- A fault at the next character. -/
def stopAhead (fault : Fault) : Reading α := fun rest => .error ⟨fault, true, rest⟩

def isBlank (c : Char) : Bool :=
  c == ' ' || c == '\n' || c == '\t' || c == '\x0d'

/-- The next character that is no blank, which stays. -/
def look? : Reading (Option Char) := do
  modify (·.dropWhile isBlank)
  return (← get).head?

def next? : Reading (Option Char) := do
  let rest ← get
  set rest.tail
  return rest.head?

def skip : Reading Unit :=
  modify List.tail

/-! ## Words and numbers -/

/-- The rest of a word. -/
def takeWord : List Char → Reading Unit
  | [] => return ()
  | wanted :: rest => do
    match ← next? with
    | none => stop .endInValue
    | some c => if c = wanted then takeWord rest else stop .noWord

def takeDigits : Reading (List Char) := do
  let rest ← get
  set (rest.dropWhile Char.isDigit)
  return rest.takeWhile Char.isDigit

/-- Digits behind a point, if there is one. -/
def takeFraction : Reading (List Char) := do
  if (← get).head? != some '.' then return []
  skip
  let digits ← takeDigits
  if digits.isEmpty then
    if (← get).isEmpty then stopAhead .endInValue else stopAhead .badNumber
  return digits

/-- An exponent, if there is one. -/
def takeExponent : Reading Int := do
  match (← get).head? with
  | some mark =>
    if mark != 'e' && mark != 'E' then return 0
    skip
    let (isNegative, rest) := Lexeme.takeSign (← get)
    set rest
    match ← next? with
    | none => stop .endInValue
    | some c =>
      if !c.isDigit then stop .badNumber
      let size : Int := min (Lexeme.valueIn 10 (c :: (← takeDigits))) 100000
      return if isNegative then -size else size
  | none => return 0

/-- A number behind its sign. -/
def takeNumber (isNegative : Bool) : Reading Json := do
  let whole ← match ← next? with
    | none => stop .endInValue
    | some '0' => do
      if ((← get).head?.map Char.isDigit).getD false then stopAhead .badNumber else pure ['0']
    | some c => do
      if c.isDigit then pure (c :: (← takeDigits)) else stop .badNumber
  let fraction ← takeFraction
  let exponent ← takeExponent
  let size := Double.ofDecimal (Lexeme.valueIn 10 (whole ++ fraction)) (exponent - fraction.length)
  if !size.isFinite then stop .tooLarge
  return .number (.double (if isNegative then -size else size))

/-! ## Strings -/

/-- Four hexadecimal digits. -/
def takeHex : Reading Nat := do
  let rest ← get
  if rest.length < 4 then
    set ([] : List Char)
    stop .endInString
  set (rest.drop 4)
  match Lexeme.wholeIn? 16 (rest.take 4) with
  | some code => return code
  | none => stop .badEscape

/-- One of two characters of a surrogate pair. -/
def expectPart (wanted : Char) : Reading Unit := do
  match ← next? with
  | none => stop .endInString
  | some c => if c != wanted then stop .hexEnd

/-- The character that an escape with digits names. -/
def takeUnicode : Reading Char := do
  let code ← takeHex
  if 0xDC00 ≤ code && code < 0xE000 then stop .loneSurrogate
  else if 0xD800 ≤ code && code < 0xDC00 then
    expectPart '\\'
    expectPart 'u'
    let low ← takeHex
    if low < 0xDC00 || 0xE000 ≤ low then stop .loneSurrogate
    return Char.ofNat (0x10000 + 0x400 * (code - 0xD800) + (low - 0xDC00))
  else return Char.ofNat code

def takeEscape : Reading Char := do
  match ← next? with
  | none => stop .endInString
  | some c =>
    match c with
    | '"' => return c
    | '\\' => return c
    | '/' => return c
    | 'b' => return '\x08'
    | 'f' => return '\x0c'
    | 'n' => return '\n'
    | 'r' => return '\x0d'
    | 't' => return '\t'
    | 'u' => takeUnicode
    | _ => stop .badEscape

/-- A string behind its first quote. The fuel is more than the text is long. -/
def takeString : Nat → List Char → Reading String
  | 0, _ => stop .endInString
  | fuel + 1, done => do
    match ← next? with
    | none => stop .endInString
    | some '"' => return String.ofList done.reverse
    | some '\\' => do takeString fuel ((← takeEscape) :: done)
    | some c => if c.toNat < 32 then stop .controlCharacter else takeString fuel (c :: done)

/-! ## Values -/

/-- Whether the next item of a list is there; `isFirst` before any. -/
def hasItem (isFirst : Bool) : Reading Bool := do
  match ← look? with
  | none => stopAhead .endInList
  | some c =>
    if c = ']' then return false
    else if isFirst then return true
    else if c = ',' then
      skip
      match ← look? with
      | some c => if c = ']' then stopAhead .extraComma else return true
      | none => stopAhead .endInValue
    else stopAhead .noListEnd

/-- Whether the next member of an object is there. -/
def hasMember (isFirst : Bool) : Reading Bool := do
  match ← look? with
  | none => stopAhead .endInObject
  | some c =>
    if c = '\x7d' then return false
    else if isFirst then if c = '"' then return true else stopAhead .noKey
    else if c = ',' then
      skip
      match ← look? with
      | some c =>
        if c = '"' then return true
        else if c = '\x7d' then stopAhead .extraComma
        else stopAhead .noKey
      | none => stopAhead .endInValue
    else stopAhead .noObjectEnd

def takeColon : Reading Unit := do
  match ← look? with
  | some c => if c = ':' then skip else stopAhead .noColon
  | none => stopAhead .endInObject

/-- How many lists and objects may stand in each other. -/
def maxNesting : Nat := 127

mutual

/-- A value; the fuel is more than the text is long. -/
def takeValue : Nat → Nat → Reading Json
  | 0, _ => stop .endInValue
  | fuel + 1, depth => do
    match ← look? with
    | none => stopAhead .endInValue
    | some c =>
      if c = 'n' then
        skip
        takeWord ['u', 'l', 'l']
        return .null
      else if c = 't' then
        skip
        takeWord ['r', 'u', 'e']
        return .bool true
      else if c = 'f' then
        skip
        takeWord ['a', 'l', 's', 'e']
        return .bool false
      else if c = '-' then
        skip
        takeNumber true
      else if c.isDigit then takeNumber false
      else if c = '"' then
        skip
        return .string (← takeString ((← get).length + 1) [])
      else if c = '[' then
        if maxNesting ≤ depth then stopAhead .tooDeep
        skip
        return .array (← takeItems fuel (depth + 1) true)
      else if c = '\x7b' then
        if maxNesting ≤ depth then stopAhead .tooDeep
        skip
        return .object (← takeMembers fuel (depth + 1) true)
      else stopAhead .noValue

def takeItems : Nat → Nat → Bool → Reading (List Json)
  | 0, _, _ => stop .endInList
  | fuel + 1, depth, isFirst => do
    if ← hasItem isFirst then
      let item ← takeValue fuel depth
      return item :: (← takeItems fuel depth false)
    else
      skip
      return []

def takeMembers : Nat → Nat → Bool → Reading (List (String × Json))
  | 0, _, _ => stop .endInObject
  | fuel + 1, depth, isFirst => do
    if ← hasMember isFirst then
      skip
      let key ← takeString ((← get).length + 1) []
      takeColon
      let value ← takeValue fuel depth
      return (key, value) :: (← takeMembers fuel depth false)
    else
      skip
      return []

end

def takeText (fuel : Nat) : Reading Json := do
  let value ← takeValue fuel 0
  match ← look? with
  | some _ => stopAhead .extraCharacters
  | none => return value

/-- Line and column behind some bytes of a text. -/
def placeAfter (text : List Char) (count : Nat) : Nat × Nat :=
  let bytes := (String.ofList text).toUTF8.data.toList.take count
  let line := 1 + bytes.count 10
  (line, ((bytes.reverse.takeWhile (· != 10))).length)

/-- What a stop says. -/
def Stop.message (stop : Stop) (text : List Char) : String :=
  let read := (String.ofList (text.take (text.length - stop.rest.length))).utf8ByteSize
  let count := if stop.isAhead then read + 1 else read
  let (line, column) := placeAfter text count
  stop.fault.message ++ " at line " ++ toString line ++ " column " ++ toString column

/-- The value that a text spells, or what is wrong with it. Objects keep members with
equal keys. -/
def read (text : String) : Except String Json :=
  let characters := text.toList
  match (takeText (4 * characters.length + 4)).run characters with
  | .ok (value, _) => .ok value
  | .error stop => .error (stop.message characters)

end JsonText

end ServerRender.Script
