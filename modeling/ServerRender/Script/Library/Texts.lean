import ServerRender.Script.Library.Patterns

/-!
# Strings and symbols

The methods of strings count in units of sixteen bits. A search for something that is
no string is left to the methods of what is searched for.
-/

namespace ServerRender.Script

namespace Run

/-- The text that a method of strings is called on. -/
def textThis (this : Value) : Run (List UInt16) := do
  if this.isNullish then throwNative .notAnObject else textOf this

/-! ## Making strings -/

def callString : Native := fun _ arguments => do
  match arguments with
  | [] => return .text []
  | .symbol symbol :: _ => return .text symbol.text
  | value :: _ => return .text (← textOf value)

def makeString : Making := fun arguments target => do
  let units ← match arguments with
    | [] => pure []
    | value :: _ => textOf value
  addBoxed target "String" (.text units)

def fromUnits : Native := fun _ arguments => do
  let units ← arguments.mapM fun value => do
    return UInt16.ofNat ((wordOf (← numberOf value)) % 65536).toNat
  return .text units

def fromCharacters : Native := fun _ arguments => do
  let parts ← arguments.mapM fun value => do
    let x ← numberOf value
    let some n := x.toInt?
      | throwRange ("codepoint \x60" ++ numberText x ++ "\x60 is not an integer")
    if n < 0 || 0x10FFFF < n then
      throwRange ("codepoint \x60" ++ toString n ++ "\x60 outside of Unicode range")
    let code := n.toNat
    if code < 0x10000 then return [UInt16.ofNat code]
    else return Text.unitsOfChar (Char.ofNat code)
  return .text parts.flatten

def rawText : Native := fun _ arguments => do
  let template ← objectOf (argument arguments 0)
  let raw ← objectOf (← read template (.name "raw"))
  let count ← lengthOf raw
  let parts ← (List.range count).mapM fun index => do
    let text ← textOf (← readIndex raw index)
    match (arguments.drop 1)[index]? with
    | some value =>
      if index + 1 < count then return text ++ (← textOf value) else return text
    | none => return text
  return .text parts.flatten

/-! ## Looking at strings -/

/-- The first place at which a text stands in another, counted from a number on. -/
def placeOf? (part : List UInt16) : List UInt16 → Nat → Option Nat
  | [], place => if part.isEmpty then some place else none
  | unit :: rest, place =>
    if part.isPrefixOf (unit :: rest) then some place else placeOf? part rest (place + 1)

/-- The unit at a place that may count from the end. -/
def textAt : Native := fun this arguments => do
  let text ← textThis this
  match ← wholeOf (argument arguments 0) with
  | .whole n =>
    let place := if n < 0 then text.length + n else n
    if place < 0 then return .undefined
    else return ((text[place.toNat]?).map fun unit => .text [unit]).getD .undefined
  | _ => return .undefined

/-- The unit at a place, if a text has it. -/
def unitAt? (text : List UInt16) (value : Value) : Run (Option UInt16) := do
  match ← wholeOf value with
  | .whole n => return if n < 0 then none else text[n.toNat]?
  | _ => return none

def charAt : Native := fun this arguments => do
  let text ← textThis this
  return .text (← unitAt? text (argument arguments 0)).toList

def unitCodeAt : Native := fun this arguments => do
  let text ← textThis this
  return ((← unitAt? text (argument arguments 0)).map fun unit => .ofNat unit.toNat).getD .notANumber

/-- The code of the character that a text starts with. -/
def codeOfStart? : List UInt16 → Option Nat
  | high :: low :: _ =>
    if Text.isHighSurrogate high && Text.isLowSurrogate low then
      some (0x10000 + 0x400 * (high.toNat - 0xD800) + (low.toNat - 0xDC00))
    else some high.toNat
  | [unit] => some unit.toNat
  | [] => none

def codeAt : Native := fun this arguments => do
  let text ← textThis this
  match ← wholeOf (argument arguments 0) with
  | .whole n =>
    if n < 0 then return .undefined
    else return ((codeOfStart? (text.drop n.toNat)).map Value.ofNat).getD .undefined
  | _ => return .undefined

def concatTexts : Native := fun this arguments => do
  let text ← textThis this
  return .text (text ++ (← arguments.mapM textOf).flatten)

/-- The text that is searched for, which may not be a regular expression. -/
def plainPart (name : String) (value : Value) : Run (List UInt16) := do
  if ← isPattern value then
    throwType ("First argument to String.prototype." ++ name ++ " must not be a regular expression")
  textOf value

def includesText : Native := fun this arguments => do
  let text ← textThis this
  let part ← plainPart "includes" (argument arguments 0)
  let start ← clampOf (argument arguments 1) 0 text.length
  return .bool (placeOf? part (text.drop start.toNat) 0).isSome

def startsWith : Native := fun this arguments => do
  let text ← textThis this
  let part ← plainPart "startsWith" (argument arguments 0)
  let start ← clampOf (argument arguments 1) 0 text.length
  return .bool (part.isPrefixOf (text.drop start.toNat))

def endsWith : Native := fun this arguments => do
  let text ← textThis this
  let part ← plainPart "endsWith" (argument arguments 0)
  let finish ← match argument arguments 1 with
    | .undefined => pure (text.length : Int)
    | value => clampOf value 0 text.length
  return .bool (part.isSuffixOf (text.take finish.toNat))

def indexOfText : Native := fun this arguments => do
  let text ← textThis this
  let part ← textOf (argument arguments 0)
  let start := (← clampOf (argument arguments 1) 0 text.length).toNat
  return ((placeOf? part (text.drop start) start).map Value.ofNat).getD (.ofInt (-1))

def lastIndexOfText : Native := fun this arguments => do
  let text ← textThis this
  let part ← textOf (argument arguments 0)
  let limit ← numberOf (argument arguments 1)
  let start := if limit.isNaN then text.length
    else if limit.isFinite then (max 0 (min limit.truncated text.length)).toNat
    else if limit.isNegative then 0 else text.length
  let found := (List.range (start + 1)).reverse.find? fun place => part.isPrefixOf (text.drop place)
  return (found.map Value.ofNat).getD (.ofInt (-1))

def compareTexts : Native := fun this arguments => do
  let text ← textThis this
  let other ← textOf (argument arguments 0)
  return .ofInt (if text < other then -1 else if other < text then 1 else 0)

/-! ## Parts of strings -/

def sliceText : Native := fun this arguments => do
  let text ← textThis this
  let start ← placeIn text.length (argument arguments 0) 0
  let finish ← placeIn text.length (argument arguments 1) text.length
  return .text ((text.take finish).drop start)

def substringText : Native := fun this arguments => do
  let text ← textThis this
  let start := (← clampOf (argument arguments 0) 0 text.length).toNat
  let finish ← match argument arguments 1 with
    | .undefined => pure text.length
    | value => do pure (← clampOf value 0 text.length).toNat
  return .text ((text.take (max start finish)).drop (min start finish))

/-- How long a string can be. -/
def maxTextLength : Nat := 4294967295

def repeatText : Native := fun this arguments => do
  let text ← textThis this
  match ← wholeOf (argument arguments 0) with
  | .whole n =>
    if 0 ≤ n && n.toNat * text.length ≤ maxTextLength then
      return .text (if text.isEmpty then [] else (List.replicate n.toNat text).flatten)
    else failRepeat
  | _ => failRepeat
where
  failRepeat : Run Value :=
    throwRange ("repeat count must be a positive finite number "
      ++ "that doesn't overflow the maximum string length (2^32 - 1)")

/-- Fills a text up to a length. -/
def padText (atStart : Bool) : Native := fun this arguments => do
  let text ← textThis this
  let size ← countOf (argument arguments 0)
  if size ≤ text.length then return .text text
  let filler ← textOr (argument arguments 1) [32]
  if filler.isEmpty then return .text text
  let missing := size - text.length
  let padding := ((List.replicate (missing / filler.length + 1) filler).flatten).take missing
  return .text (if atStart then padding ++ text else text ++ padding)

def isSpaceUnit (unit : UInt16) : Bool :=
  Lexeme.isSpace (Char.ofNat unit.toNat)

/-- A text without the blanks at its ends. -/
def trimText (atStart atEnd : Bool) : Native := fun this _ => do
  let text ← textThis this
  let shorter := if atStart then text.dropWhile isSpaceUnit else text
  return .text (if atEnd then (shorter.reverse.dropWhile isSpaceUnit).reverse else shorter)

def mapText (f : List UInt16 → List UInt16) : Native := fun this _ => do
  return .text (f (← textThis this))

/-- The names of normal forms. -/
def normalForms : List String :=
  ["NFC", "NFD", "NFKC", "NFKD"]

def normalizeText : Native := fun this arguments => do
  let text ← textThis this
  let form ← match argument arguments 0 with
    | .undefined => pure "NFC"
    | value => stringOf value
  if normalForms.contains form then return .text text
  else throwRange "The normalization form should be one of NFC, NFD, NFKC, NFKD."

/-- A text in which surrogates that stand alone are replaced. -/
def wellFormed : List UInt16 → List UInt16
  | high :: low :: rest =>
    if Text.isHighSurrogate high && Text.isLowSurrogate low then high :: low :: wellFormed rest
    else (if Text.isHighSurrogate high || Text.isLowSurrogate high then 0xFFFD else high)
      :: wellFormed (low :: rest)
  | [unit] => [if Text.isHighSurrogate unit || Text.isLowSurrogate unit then 0xFFFD else unit]
  | [] => []

def isWellFormed : Native := fun this _ => do
  let text ← textThis this
  return .bool (wellFormed text == text)

/-! ## Searches by other objects -/

/-- Hands a search to the method that a value has under a symbol. -/
def delegate? (value : Value) (symbol : String) (arguments : List Value) : Run (Option Value) := do
  if value.isNullish then return none
  match ← method? value (.standard symbol) with
  | some method => return some (← apply method value arguments)
  | none => return none

/-- A search by a regular expression that is made of a value. -/
def searchBy (symbol flags : String) : Native := fun this arguments => do
  let value := argument arguments 0
  if this.isNullish then throwNative .notAnObject
  if symbol == "matchAll" then
    if ← isPattern value then
      if !(← stringOf (← readName value "flags")).toList.contains 'g' then
        throwType "String.prototype.matchAll called with a non-global regular expression argument"
  match ← delegate? value symbol [this] with
  | some result => return result
  | none =>
    let text ← textOf this
    let pattern ← patternFrom value (if flags.isEmpty then .undefined else .ofString flags) .undefined
    invoke pattern (.standard symbol) [.text text]

/-- All places of a text in another one, from so far on; the fuel is more than its
length. -/
def placesOf (part text : List UInt16) : Nat → Nat → List Nat
  | 0, _ => []
  | fuel + 1, start =>
    match placeOf? part (text.drop start) start with
    | some place =>
      if text.length < place then []
      else place :: placesOf part text fuel (place + max 1 part.length)
    | none => []

/-- Replaces the first place of a text, or all of them. -/
def replaceText (all : Bool) : Native := fun this arguments => do
  let value := argument arguments 0
  let given := argument arguments 1
  if this.isNullish then throwNative .notAnObject
  if all then
    if ← isPattern value then
      let flags ← readName value "flags"
      if flags.isNullish then throwNative .notAnObject
      if !(← stringOf flags).toList.contains 'g' then
        throwType "String.prototype.replaceAll called with a non-global regular expression argument"
  match ← delegate? value "replace" [this, given] with
  | some result => return result
  | none =>
    let text ← textOf this
    let part ← textOf value
    let replacement ← if ← isFunction given then pure given
      else do pure (Value.text (← textOf given))
    let places :=
      if all then placesOf part text (text.length + 2) 0 else (placeOf? part text 0).toList
    let changes ← places.mapM fun place => do
      return (place, part.length, ← replacementFor replacement text part place [] .undefined)
    return .text (splicedText text changes)

/-- The parts of a text between the places of another one; the fuel is more than its
length. -/
def partsBetween (separator : List UInt16) : Nat → List UInt16 → List (List UInt16)
  | 0, text => [text]
  | fuel + 1, text =>
    match placeOf? separator text 0 with
    | some place =>
      text.take place :: partsBetween separator fuel (text.drop (place + separator.length))
    | none => [text]

def splitText : Native := fun this arguments => do
  let separator := argument arguments 0
  if this.isNullish then throwNative .notAnObject
  match ← delegate? separator "split" [this, argument arguments 1] with
  | some result => return result
  | none =>
    let text ← textOf this
    let limit ← splitLimit (argument arguments 1)
    let part ← textOf separator
    if limit = 0 then addArray []
    else if separator = .undefined then addArray [.text text]
    else
      let parts :=
        if part.isEmpty then text.map fun unit => [unit]
        else partsBetween part (text.length + 1) text
      addArray ((parts.take limit).map Value.text)

def iterateText : Native := fun this _ => do
  addKind (.iterator (.characters (← textThis this)))

end Run

open Run in
def Class.string : Class where
  name := "String"
  length := 1
  call := callString
  making := some makeString
  statics := [
    .method "raw" 1 rawText,
    .method "fromCharCode" 1 fromUnits,
    .method "fromCodePoint" 1 fromCharacters]
  methods := [
    .constant (.name "length") (.fixed (.ofNat 0)),
    .method "trimStart" 0 (trimText true false),
    .method "trimEnd" 0 (trimText false true),
    .method "charAt" 1 charAt,
    .method "charCodeAt" 1 unitCodeAt,
    .method "codePointAt" 1 codeAt,
    .method "toString" 0 (fun this _ => primitiveThis "String" "string" this),
    .method "concat" 1 concatTexts,
    .method "repeat" 1 repeatText,
    .method "isWellFormed" 0 isWellFormed,
    .method "toWellFormed" 0 (mapText wellFormed),
    .method "slice" 2 sliceText,
    .method "startsWith" 1 startsWith,
    .method "endsWith" 1 endsWith,
    .method "includes" 1 includesText,
    .method "indexOf" 1 indexOfText,
    .method "lastIndexOf" 1 lastIndexOfText,
    .method "localeCompare" 1 compareTexts,
    .method "match" 1 (searchBy "match" ""),
    .method "normalize" 0 normalizeText,
    .method "padEnd" 1 (padText false),
    .method "padStart" 1 (padText true),
    .method "trim" 0 (trimText true true),
    .method "toLowerCase" 0 (mapText Text.lowerUnits),
    .method "toUpperCase" 0 (mapText Text.upperUnits),
    .method "toLocaleLowerCase" 0 (mapText Text.lowerUnits),
    .method "toLocaleUpperCase" 0 (mapText Text.upperUnits),
    .method "substring" 2 substringText,
    .method "split" 2 splitText,
    .method "valueOf" 0 (fun this _ => primitiveThis "String" "string" this),
    .method "matchAll" 1 (searchBy "matchAll" "g"),
    .method "replace" 2 (replaceText false),
    .method "replaceAll" 2 (replaceText true),
    .keyed "iterator" "[Symbol.iterator]" 0 iterateText,
    .method "search" 1 (searchBy "search" ""),
    .method "at" 1 textAt]

/-! ## Symbols -/

namespace Run

def callSymbol : Native := fun _ arguments => do
  match argument arguments 0 with
  | .undefined => return .symbol (← addSymbol none)
  | value => return .symbol (← addSymbol (some (← textOf value)))

/-- The symbol that scripts share under a text. -/
def sharedSymbol : Native := fun _ arguments => do
  let text ← textOf (argument arguments 0)
  match (← get).registry.lookup text with
  | some symbol => return .symbol symbol
  | none =>
    let symbol ← addSymbol (some text)
    modify fun realm => { realm with registry := (text, symbol) :: realm.registry }
    return .symbol symbol

def sharedText : Native := fun _ arguments => do
  match argument arguments 0 with
  | .symbol symbol =>
    let entry := (← get).registry.find? fun entry => entry.2 == symbol
    return (entry.map fun entry => .text entry.1).getD .undefined
  | _ => throwType "Symbol.keyFor: sym is not a symbol"

def symbolThis (this : Value) : Run Symbol := do
  match ← primitiveThis "Symbol" "Symbol" this with
  | .symbol symbol => return symbol
  | _ => return default

end Run

open Run in
def Class.symbol : Class where
  name := "Symbol"
  length := 0
  call := callSymbol
  making := some fun _ _ => throwType "Symbol is not a constructor"
  statics :=
    (Symbol.standardNames.map fun name => .fixed name (.symbol (.standard name)))
    ++ [.method "for" 1 sharedSymbol, .method "keyFor" 1 sharedText]
  methods := [
    .method "toString" 0 (fun this _ => return .text (← symbolThis this).text),
    .method "valueOf" 0 (fun this _ => return .symbol (← symbolThis this)),
    .getter "description" (fun this _ => do
      return ((← symbolThis this).description.map Value.text).getD .undefined),
    .tag "Symbol",
    .keyed "toPrimitive" "[Symbol.toPrimitive]" 1
      (fun this _ => return .symbol (← symbolThis this))]

end ServerRender.Script
