import ServerRender.Toml.Basic

/-!
# Keys, strings and blanks of TOML

Each reading function takes the text that is left and gives back what it leaves.
-/

namespace ServerRender.Toml

def isBlank (c : Char) : Bool :=
  c == ' ' || c == '\t'

def skipBlanks (text : List Char) : List Char :=
  text.dropWhile isBlank

/-- What follows a line ending at the start of a text. -/
def afterNewline? : List Char → Option (List Char)
  | '\n' :: rest => some rest
  | '\x0d' :: '\n' :: rest => some rest
  | _ => none

/-- Characters other than controls; a tab counts. -/
def isVisible (c : Char) : Bool :=
  c == '\t' || (0x20 ≤ c.toNat && c.toNat != 0x7F)

/-- Passes over a comment, up to the end of its line. -/
def skipComment (text : List Char) : List Char :=
  match text with
  | '#' :: rest => rest.dropWhile isVisible
  | _ => text

/-- What follows the rest of a line that holds nothing but blanks and a comment. -/
def afterLine? (text : List Char) : Option (List Char) :=
  match skipComment (skipBlanks text) with
  | [] => some []
  | rest => afterNewline? rest

/-- Passes over blanks, line endings, and comments that end in one. -/
def skipLines : Nat → List Char → List Char
  | 0, text => text
  | fuel + 1, text =>
    let text := skipBlanks text
    match afterNewline? (skipComment text) with
    | some rest => skipLines fuel rest
    | none => text

/-! ## Strings -/

/-- The value of the first `count` characters as hexadecimal digits. -/
def hexValue? (count : Nat) (text : List Char) : Option (Nat × List Char) :=
  let digits := text.take count
  if digits.length = count then
    (digits.foldlM (fun sum (c : Char) =>
      let code := c.toNat
      if c.isDigit then some (16 * sum + (code - 48))
      else if 97 ≤ code && code ≤ 102 then some (16 * sum + (code - 87))
      else if 65 ≤ code && code ≤ 70 then some (16 * sum + (code - 55))
      else none) 0).map fun value => (value, text.drop count)
  else none

/-- A code that is a character. -/
def charOfCode? (code : Nat) : Option Char :=
  if code.isValidChar then some (Char.ofNat code) else none

/-- The character of an escape, after its backslash. -/
def readEscape? (text : List Char) : Option (Char × List Char) :=
  match text with
  | 'b' :: rest => some ('\x08', rest)
  | 't' :: rest => some ('\t', rest)
  | 'n' :: rest => some ('\n', rest)
  | 'f' :: rest => some ('\x0c', rest)
  | 'r' :: rest => some ('\x0d', rest)
  | '"' :: rest => some ('"', rest)
  | '\\' :: rest => some ('\\', rest)
  | 'u' :: rest => do
    let (code, left) ← hexValue? 4 rest
    return (← charOfCode? code, left)
  | 'U' :: rest => do
    let (code, left) ← hexValue? 8 rest
    return (← charOfCode? code, left)
  | _ => none

/-- The rest of a string on one line, after its opening quote. -/
def readBasicTail? : Nat → List Char → List Char → Option (String × List Char)
  | 0, _, _ => none
  | fuel + 1, before, text =>
    match text with
    | '"' :: rest => some (String.ofList before.reverse, rest)
    | '\\' :: rest => do
      let (c, left) ← readEscape? rest
      readBasicTail? fuel (c :: before) left
    | c :: rest => if isVisible c then readBasicTail? fuel (c :: before) rest else none
    | [] => none

/-- Splits off up to two quotes in front of the three that close a string of several
lines. -/
def closingQuotes (quote : Char) (text : List Char) : List Char × List Char :=
  let extra := (text.takeWhile (· == quote)).take 2
  (extra, text.drop extra.length)

/-- What follows a line ending and all blanks and line endings after it, where blanks
may stand in front. -/
def afterFoldedNewline? (text : List Char) : Option (List Char) :=
  (afterNewline? (skipBlanks text)).map fun rest =>
    let rec skip : List Char → List Char
      | ' ' :: more => skip more
      | '\t' :: more => skip more
      | '\n' :: more => skip more
      | '\x0d' :: '\n' :: more => skip more
      | more => more
    skip rest

/-- The rest of a string of several lines with escapes. -/
def readBasicLines? : Nat → List Char → List Char → Option (String × List Char)
  | 0, _, _ => none
  | fuel + 1, before, text =>
    match text with
    | '"' :: '"' :: '"' :: rest =>
      let (extra, left) := closingQuotes '"' rest
      some (String.ofList (before.reverse ++ extra), left)
    | '\\' :: rest =>
      match afterFoldedNewline? rest with
      | some left => readBasicLines? fuel before left
      | none => do
        let (c, left) ← readEscape? rest
        readBasicLines? fuel (c :: before) left
    | '\n' :: rest => readBasicLines? fuel ('\n' :: before) rest
    | '\x0d' :: '\n' :: rest => readBasicLines? fuel ('\n' :: before) rest
    | c :: rest => if isVisible c then readBasicLines? fuel (c :: before) rest else none
    | [] => none

/-- The rest of a string of several lines without escapes. -/
def readLiteralLines? : Nat → List Char → List Char → Option (String × List Char)
  | 0, _, _ => none
  | fuel + 1, before, text =>
    match text with
    | '\'' :: '\'' :: '\'' :: rest =>
      let (extra, left) := closingQuotes '\'' rest
      some (String.ofList (before.reverse ++ extra), left)
    | '\n' :: rest => readLiteralLines? fuel ('\n' :: before) rest
    | '\x0d' :: '\n' :: rest => readLiteralLines? fuel ('\n' :: before) rest
    | c :: rest => if isVisible c then readLiteralLines? fuel (c :: before) rest else none
    | [] => none

/-- The rest of a string on one line without escapes. -/
def readLiteralTail? (text : List Char) : Option (String × List Char) :=
  let body := text.takeWhile fun c => isVisible c && c != '\''
  match text.drop body.length with
  | '\'' :: rest => some (String.ofList body, rest)
  | _ => none

/-- A line ending right after the opening quotes does not belong to the string. -/
def dropFirstNewline (text : List Char) : List Char :=
  (afterNewline? text).getD text

/-- A string in any of the four forms. -/
def readString? (text : List Char) : Option (String × List Char) :=
  let fuel := text.length + 1
  match text with
  | '"' :: '"' :: '"' :: rest => readBasicLines? fuel [] (dropFirstNewline rest)
  | '\'' :: '\'' :: '\'' :: rest => readLiteralLines? fuel [] (dropFirstNewline rest)
  | '"' :: rest => readBasicTail? fuel [] rest
  | '\'' :: rest => readLiteralTail? rest
  | _ => none

/-! ## Keys -/

def isBareKeyChar (c : Char) : Bool :=
  c.isAlphanum || c == '-' || c == '_'

/-- A key without dots: bare, or a string on one line. -/
def readSimpleKey? (text : List Char) : Option (String × List Char) :=
  match text with
  | '"' :: rest => readBasicTail? (rest.length + 1) [] rest
  | '\'' :: rest => readLiteralTail? rest
  | _ =>
    let key := text.takeWhile isBareKeyChar
    if key.isEmpty then none else some (String.ofList key, text.drop key.length)

/-- The parts of a dotted key, with blanks around each of them. -/
def readKeyParts? : Nat → List Char → Option (List String × List Char)
  | 0, _ => none
  | fuel + 1, text => do
    let (part, afterPart) ← readSimpleKey? (skipBlanks text)
    match skipBlanks afterPart with
    | '.' :: rest =>
      let (parts, left) ← readKeyParts? fuel rest
      return (part :: parts, left)
    | left => return ([part], left)

/-- A key: the parts before its last one, and the last. -/
def readKey? (text : List Char) : Option (List String × String × List Char) := do
  let (parts, left) ← readKeyParts? maxNesting text
  let key ← parts.getLast?
  return (parts.dropLast, key, left)

end ServerRender.Toml
