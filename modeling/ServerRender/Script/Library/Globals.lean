import ServerRender.Script.Library.Numbers

/-!
# Global functions

Functions that stand on the global object: tests of numbers, code from texts, and texts
for addresses.
-/

namespace ServerRender.Script

namespace Run

def runText : Native := fun _ arguments => do
  match argument arguments 0 with
  | .text units => fun machine => machine.evaluate (Text.ofUnits units)
  | other => return other

/-- A test of what a value is as a number. -/
def testAsNumber (p : Double → Bool) : Native := fun _ arguments => do
  return .bool (p (← numberOf (argument arguments 0)))

/-! ## Addresses -/

def uriError (message : String) : NativeError :=
  ⟨"URIError", message⟩

def isLetterOrDigit (c : Char) : Bool :=
  c.isAlphanum

/-- Characters that no encoding changes. -/
def plainMarks : List Char :=
  "-_.!~*'()".toList

/-- Characters that have a meaning in an address. -/
def reservedMarks : List Char :=
  ";/?:@&=+$,#".toList

def hexByte (byte : UInt8) : List Char :=
  let digit (n : Nat) : Char := if n < 10 then Char.ofNat (48 + n) else Char.ofNat (55 + n)
  ['%', digit (byte.toNat / 16), digit (byte.toNat % 16)]

/-- A text with bytes in place of all but some characters. -/
def encodeText (kept : Char → Bool) : List UInt16 → Run (List Char)
  | [] => return []
  | high :: low :: rest => do
    if Text.isHighSurrogate high && Text.isLowSurrogate low then
      let bytes := (Text.ofUnits [high, low]).toUTF8.data.toList
      return bytes.flatMap hexByte ++ (← encodeText kept rest)
    else
      let first ← encodeUnit high
      return first ++ (← encodeText kept (low :: rest))
  | [unit] => encodeUnit unit
where
  encodeUnit (unit : UInt16) : Run (List Char) := do
    if Text.isHighSurrogate unit || Text.isLowSurrogate unit then
      throwNative (uriError "trailing surrogate found")
    let c := Char.ofNat unit.toNat
    if kept c then return [c] else return (String.ofList [c]).toUTF8.data.toList.flatMap hexByte

def encodeWith (more : List Char) : Native := fun _ arguments => do
  let text ← textOf (argument arguments 0)
  let kept (c : Char) : Bool := isLetterOrDigit c || plainMarks.contains c || more.contains c
  return .ofString (String.ofList (← encodeText kept text))

/-- The byte that two digits name. -/
def byteOfDigits (digits : List Char) : Run UInt8 := do
  match Lexeme.wholeIn? 16 digits with
  | some byte => return UInt8.ofNat byte
  | none => throwNative (uriError "invalid hexadecimal digit found")

/-- How many bytes follow the first one of a character. -/
def followers? (byte : UInt8) : Option Nat :=
  if byte < 0x80 then some 0
  else if 0xC0 ≤ byte && byte < 0xE0 then some 1
  else if 0xE0 ≤ byte && byte < 0xF0 then some 2
  else if 0xF0 ≤ byte && byte < 0xF8 then some 3
  else none

/-- So many bytes behind percent signs, and the rest. -/
def takeBytes : Nat → List Char → Run (List UInt8 × List Char)
  | 0, text => return ([], text)
  | count + 1, '%' :: text => do
    if text.length < 2 then throwNative (uriError "non-terminated escape character found")
    let byte ← byteOfDigits (text.take 2)
    let (bytes, rest) ← takeBytes count (text.drop 2)
    return (byte :: bytes, rest)
  | _ + 1, [] => throwNative (uriError "non-terminated escape character found")
  | _ + 1, _ => throwNative (uriError "escape characters must be preceded with a % sign")

/-- A text with characters in place of bytes, but for some characters. The fuel is more
than its length. -/
def decodeText (reserved : List Char) : Nat → List Char → Run (List Char)
  | 0, _ => return []
  | _, [] => return []
  | fuel + 1, '%' :: text => do
    if text.length < 2 then throwNative (uriError "invalid escape character found")
    let first ← byteOfDigits (text.take 2)
    let some count := followers? first | throwNative (uriError "invalid escape character found")
    let (others, rest) ← takeBytes count (text.drop 2)
    match String.fromUTF8? ⟨(first :: others).toArray⟩ with
    | some decoded =>
      let characters := decoded.toList
      let shown := if characters.any reserved.contains then '%' :: text.take 2 else characters
      return shown ++ (← decodeText reserved fuel rest)
    | none => throwNative (uriError "invalid UTF-8 encoding found")
  | fuel + 1, c :: text => do return c :: (← decodeText reserved fuel text)

def decodeWith (reserved : List Char) : Native := fun _ arguments => do
  let text ← stringOf (argument arguments 0)
  return .ofString (String.ofList (← decodeText reserved (text.length + 1) text.toList))

end Run

open Run in
/-- The functions on the global object, which belong to no class. -/
def Namespace.globals : Namespace where
  name := ""
  members := [
    .method "eval" 1 runText,
    .method "isFinite" 1 (testAsNumber Double.isFinite),
    .method "isNaN" 1 (testAsNumber Double.isNaN),
    .method "encodeURI" 1 (encodeWith reservedMarks),
    .method "encodeURIComponent" 1 (encodeWith []),
    .method "decodeURI" 1 (decodeWith reservedMarks),
    .method "decodeURIComponent" 1 (decodeWith [])]

end ServerRender.Script
