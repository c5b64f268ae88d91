import ServerRender.Script.Library.Basic
import ServerRender.Script.Pattern

/-!
# Regular expressions as objects

A regular expression remembers where its next search starts, and each search gives an
array with what its groups have matched. Strings hand their searches to the methods of
this class that stand under symbols.
-/

namespace ServerRender.Script

namespace Run

/-! ## Making them -/

/-- Whether a value counts as a regular expression. -/
def isPattern (value : Value) : Run Bool := do
  let .object id := value | return false
  match ← read id (.standard "match") with
  | .undefined =>
    match ← kindOf? value with
    | some (.regexp _ _) => return true
    | _ => return false
  | flag => return flag.isTruthy

/-- Where a regular expression keeps the start of its next search. -/
def lastIndexKey : Key := .name "lastIndex"

/-- Adds a regular expression for `new`. -/
def addPattern (target : Value) (body flags : String) : Run Value := do
  if let some fault := Pattern.flagFault? flags.toList then throwNative (syntaxError fault)
  if let .error fault := Pattern.compile body flags then
    throwNative (syntaxError ("failed to create matcher: " ++ fault))
  let properties := Properties.ofEntries [(lastIndexKey, ⟨.stored (.ofNat 0), true, false, false⟩)]
  return .object (← addFor target "RegExp" (.ofKind (.regexp body flags) properties))

/-- A regular expression of a value that spells one. -/
def patternFrom (source flags target : Value) : Run Value := do
  let body ← textOr source []
  let marks ← textOr flags []
  addPattern target (Text.ofUnits body) (Text.ofUnits marks)

def makePattern (target source flags : Value) : Run Value := do
  match ← kindOf? source with
  | some (.regexp body known) =>
    patternFrom (.ofString body) (if flags = .undefined then .ofString known else flags) target
  | _ =>
    if ← isPattern source then
      let body ← readName source "source"
      patternFrom body (← if flags = .undefined then readName source "flags" else pure flags) target
    else patternFrom source flags target

def callPattern : Native := fun _ arguments => do
  let source := argument arguments 0
  let flags := argument arguments 1
  if flags = .undefined then
    if ← isPattern source then
      if (← readName source "constructor") = .object (constructorPlace "RegExp") then return source
  makePattern .undefined source flags

/-! ## Searches -/

/-- An object for what the groups with names have matched. -/
def addGroups (pattern : Pattern.Compiled) (parts : List Value) : Run Value := do
  if pattern.names.isEmpty then return .undefined
  let named := pattern.names.map fun (name, index) =>
    (Key.ofString name, Property.plain (parts.getD index .undefined))
  addObject ⟨.plain, .ofEntries named, none, true⟩

/-- The array that a search gives. -/
def addMatch (pattern : Pattern.Compiled) (text : List UInt16) (groups : Array (Option (Nat × Nat)))
    (tellsPlaces : Bool) : Run Value := do
  let parts := groups.toList.map fun bounds =>
    (bounds.map fun (first, last) => Value.text ((text.take last).drop first)).getD .undefined
  let list := Object.array (parts.map some)
  let start := ((groups[0]?.join).map (·.1)).getD 0
  let more :=
    [(Key.name "index", Property.plain (.ofNat start)), (.name "input", .plain (.text text)),
      (.name "groups", .plain (← addGroups pattern parts))]
  let id ← addPlace { list with
    properties := more.foldl (fun all entry => all.set entry.1 entry.2) list.properties }
  if tellsPlaces then
    let places ← groups.toList.mapM fun bounds => do
      match bounds with
      | some (first, last) => addArray [.ofNat first, .ofNat last]
      | none => return .undefined
    let indices ← addPlace (.array (places.map some))
    store indices (.name "groups") (.plain (← addGroups pattern places))
    store id (.name "indices") (.plain (.object indices))
  return .object id

def setLastIndex (id index : Nat) : Run Unit :=
  write id lastIndexKey (.ofNat index)

/-- Searches a text from the last index on. -/
def searchPattern (id : Nat) (text : List UInt16) : Run Value := do
  let some (.regexp body flags) ← kindOf? (.object id) | throwType "RegExpExec called with invalid value"
  let flags := flags.toList
  let moves := flags.contains 'g' || flags.contains 'y'
  let last ← countOf (← read id lastIndexKey)
  let start := if moves then last else 0
  let fail : Run Value := do
    if moves then setLastIndex id 0
    return .null
  let .ok pattern := Pattern.compile body (String.ofList flags) | fail
  if text.length < start then fail
  else
    let units := text.toArray
    let found := if flags.contains 'y' then Pattern.matchAt? pattern units start
      else Pattern.findFrom? pattern units (units.size + 1 - start) start
    match found with
    | none => fail
    | some groups =>
      if moves then setLastIndex id (((groups[0]?.join).map (·.2)).getD 0)
      addMatch pattern text groups (flags.contains 'd')

/-- Searches a text by the method `exec` of an object. -/
def execute (id : Nat) (text : List UInt16) : Run Value := do
  let method ← read id (.name "exec")
  if ← isFunction method then
    match ← apply method (.object id) [.text text] with
    | .object result => return .object result
    | .null => return .null
    | _ => throwType "regexp exec returned neither object nor null"
  else searchPattern id text

/-- The object that a method of this class is called on. -/
def patternThis (this : Value) (name : String) : Run Nat := do
  let .object id := this
    | throwType ("RegExp.prototype." ++ name ++ " method called on incompatible value")
  return id

def execMethod : Native := fun this arguments => do
  let id ← patternThis this "exec"
  let some (.regexp _ _) ← kindOf? this
    | throwType "RegExp.prototype.exec method called on incompatible value"
  searchPattern id (← textOf (argument arguments 0))

def testMethod : Native := fun this arguments => do
  let id ← patternThis this "test"
  return .bool ((← execute id (← textOf (argument arguments 0))) != .null)

/-- The index behind an empty match: a pattern that goes by characters does not stop
inside one. -/
def indexAfter (text : List UInt16) (index : Nat) (byCharacter : Bool) : Nat :=
  match text.drop index with
  | high :: low :: _ =>
    if byCharacter && Text.isHighSurrogate high && Text.isLowSurrogate low then index + 2
    else index + 1
  | _ => index + 1

def flagsOf (id : Nat) : Run (List Char) := do
  return (← stringOf (← read id (.name "flags"))).toList

def goesByCharacter (flags : List Char) : Bool :=
  flags.contains 'u' || flags.contains 'v'

/-- All matches of a pattern that keeps its place, from its start on. -/
def allMatches (id : Nat) (text : List UInt16) (byCharacter : Bool) : Run (List Value) := do
  let found ← loop (fun found => do
    match ← execute id text with
    | .object result =>
      if (← textOf (← readIndex result 0)).isEmpty then
        let index ← countOf (← read id lastIndexKey)
        setLastIndex id (indexAfter text index byCharacter)
      return .inl (.object result :: found)
    | _ => return .inr found) []
  return found.reverse

def matchMethod : Native := fun this arguments => do
  let id ← patternThis this "match"
  let text ← textOf (argument arguments 0)
  let flags ← flagsOf id
  if !flags.contains 'g' then return ← execute id text
  setLastIndex id 0
  let found ← allMatches id text (goesByCharacter flags)
  if found.isEmpty then return .null
  let parts ← found.mapM fun result => do return Value.text (← textOf (← readMember result (.index 0)))
  addArray parts

def matchAllMethod : Native := fun this arguments => do
  let id ← patternThis this "match_all"
  let text ← textOf (argument arguments 0)
  let constructor ← speciesOf id "RegExp"
  let flags ← flagsOf id
  let matcher ← objectOf
    (← construct constructor [this, .ofString (String.ofList flags)] constructor)
  setLastIndex matcher (← countOf (← read id lastIndexKey))
  let results ← if flags.contains 'g' then allMatches matcher text (goesByCharacter flags)
    else do
      match ← execute matcher text with
      | .null => pure []
      | result => pure [result]
  addKind (.iterator (.matches results))

def searchMethod : Native := fun this arguments => do
  let id ← patternThis this "[Symbol.search]"
  let text ← textOf (argument arguments 0)
  let before ← read id lastIndexKey
  if !(before.isSameValue (.ofNat 0)) then setLastIndex id 0
  let result ← execute id text
  let after ← read id lastIndexKey
  if !(after.isSameValue before) then write id lastIndexKey before
  if result = .null then return .ofInt (-1) else readName result "index"

/-! ## Replacements -/

/-- A replacement with what its marks stand for: the match, what stands in front of it
or behind it, and the groups by number or name. The fuel is more than its length. -/
def substitute (text matched : List UInt16) (position : Nat) (groups : List Value) (named : Value) :
    Nat → List UInt16 → Run (List UInt16)
  | 0, _ => return []
  | _, [] => return []
  | fuel + 1, unit :: rest => do
    let continueWith (part : List UInt16) (left : List UInt16) : Run (List UInt16) := do
      return part ++ (← substitute text matched position groups named fuel left)
    let digit? (unit : Option UInt16) : Option Nat :=
      match unit with
      | some unit => if 48 ≤ unit && unit ≤ 57 then some (unit.toNat - 48) else none
      | none => none
    let groupText (index : Nat) : Run (List UInt16) := do
      match groups.getD (index - 1) .undefined with
      | .undefined => return []
      | value => textOf value
    if unit != 36 then continueWith [unit] rest
    else match rest with
      | [] => return [36]
      | mark :: left =>
        if mark = 36 then continueWith [36] left
        else if mark = 38 then continueWith matched left
        else if mark = 96 then continueWith (text.take position) left
        else if mark = 39 then continueWith (text.drop (position + matched.length)) left
        else if mark = 60 && named != .undefined && left.contains 62 then
          let name := left.takeWhile (· != 62)
          let after := (left.dropWhile (· != 62)).drop 1
          match ← readMember named (.ofUnits name) with
          | .undefined => continueWith [] after
          | value => continueWith (← textOf value) after
        else match digit? (some mark), digit? left.head? with
          | some tens, some ones =>
            let both := 10 * tens + ones
            if 1 ≤ both && both ≤ groups.length then continueWith (← groupText both) (left.drop 1)
            else if 1 ≤ tens && tens ≤ groups.length then continueWith (← groupText tens) left
            else continueWith [36] rest
          | some index, none =>
            if 1 ≤ index && index ≤ groups.length then continueWith (← groupText index) left
            else continueWith [36] rest
          | none, _ => continueWith [36] rest

/-- What a replacement makes of a match: a function is called, a text has marks. -/
def replacementFor (replacement : Value) (text matched : List UInt16) (position : Nat)
    (groups : List Value) (named : Value) : Run (List UInt16) := do
  if ← isFunction replacement then
    let arguments := [.text matched] ++ groups ++ [.ofNat position, .text text]
      ++ (if named = .undefined then [] else [named])
    textOf (← apply replacement .undefined arguments)
  else
    let template ← textOf replacement
    let names ← if named = .undefined then pure .undefined else do pure (.object (← objectOf named))
    substitute text matched position groups names (template.length + 1) template

/-- A text in which the parts at some places have been replaced. -/
def splicedText (text : List UInt16) (changes : List (Nat × Nat × List UInt16)) : List UInt16 :=
  let (done, last) := changes.foldl (fun (done, last) (position, size, part) =>
    if position < last then (done, last)
    else (part :: (text.take position).drop last :: done, position + size)) ([], 0)
  done.reverse.flatten ++ text.drop last

def replaceMethod : Native := fun this arguments => do
  let id ← patternThis this "[Symbol.replace]"
  let text ← textOf (argument arguments 0)
  let given := argument arguments 1
  let replacement ← if ← isFunction given then pure given else do pure (Value.text (← textOf given))
  let flags ← flagsOf id
  let results ← if flags.contains 'g' then do
      setLastIndex id 0
      allMatches id text (goesByCharacter flags)
    else do
      match ← execute id text with
      | .null => pure []
      | result => pure [result]
  let changes ← results.mapM fun result => do
    let found ← objectOf result
    let count ← lengthOf found
    let matched ← textOf (← readIndex found 0)
    let position := min text.length (← clampOf (← read found (.name "index")) 0 maxSafe).toNat
    let groups ← ((List.range count).drop 1).mapM fun index => do
      match ← readIndex found index with
      | .undefined => return .undefined
      | value => return Value.text (← textOf value)
    let named ← read found (.name "groups")
    let written ← replacementFor replacement text matched position groups named
    return (position, matched.length, written)
  return .text (splicedText text changes)

/-! ## Splitting -/

/-- The most parts that a split may give. -/
def splitLimit (value : Value) : Run Nat := do
  if value = .undefined then return UInt32.size - 1
  else return ((wordOf (← numberOf value)) % (UInt32.size : Int)).toNat

def splitMethod : Native := fun this arguments => do
  let id ← patternThis this "split"
  let text ← textOf (argument arguments 0)
  let constructor ← speciesOf id "RegExp"
  let flags ← flagsOf id
  let marks := if flags.contains 'y' then flags else flags ++ ['y']
  let splitter ← objectOf
    (← construct constructor [this, .ofString (String.ofList marks)] constructor)
  let limit ← splitLimit (argument arguments 1)
  if limit = 0 then return ← addArray []
  if text.isEmpty then
    return ← if (← execute splitter text) = .null then addArray [.text text] else addArray []
  let parts ← loop (fun (parts, start, position) => do
    if text.length ≤ position then return .inr (.text (text.drop start) :: parts)
    setLastIndex splitter position
    match ← execute splitter text with
    | .object found =>
      let finish := min text.length (← countOf (← read splitter lastIndexKey))
      if finish = start then
        return .inl (parts, start, indexAfter text position (goesByCharacter flags))
      let count ← lengthOf found
      let groups ← ((List.range count).drop 1).mapM (readIndex found)
      let more := groups.reverse ++ .text ((text.take position).drop start) :: parts
      if limit ≤ more.length then return .inr more
      return .inl (more, finish, finish)
    | _ => return .inl (parts, start, indexAfter text position (goesByCharacter flags)))
    (([] : List Value), 0, 0)
  addArray (parts.reverse.take limit)

/-! ## Texts and flags -/

def patternText : Native := fun this _ => do
  let id ← patternThis this "toString"
  let body ← textOf (← read id (.name "source"))
  let flags ← textOf (← read id (.name "flags"))
  return .text (Text.units "/" ++ body ++ Text.units "/" ++ flags)

/-- A body between slashes: slashes and line ends in it are marked. -/
def shownBody (body : String) : String :=
  let rec go (inSet : Bool) : List Char → List Char
    | [] => []
    | '\\' :: c :: rest => '\\' :: c :: go inSet rest
    | '/' :: rest => (if inSet then ['/'] else ['\\', '/']) ++ go inSet rest
    | '\n' :: rest => '\\' :: 'n' :: go inSet rest
    | '\x0d' :: rest => '\\' :: 'r' :: go inSet rest
    | c :: rest => c :: go (if c = '[' then true else if c = ']' then false else inSet) rest
  if body.isEmpty then "(?:)" else String.ofList (go false body.toList)

def patternSource : Native := fun this _ => do
  match ← kindOf? this with
  | some (.regexp body _) => return .ofString (shownBody body)
  | _ =>
    if this = .object (prototypePlace "RegExp") then return .ofString "(?:)"
    else throwType "RegExp.prototype.source method called on incompatible value"

/-- The accessors of flags. -/
def patternFlags : List (String × Char) :=
  [("hasIndices", 'd'), ("global", 'g'), ("ignoreCase", 'i'), ("multiline", 'm'), ("dotAll", 's'),
    ("unicode", 'u'), ("unicodeSets", 'v'), ("sticky", 'y')]

def patternFlag (name : String) (mark : Char) : Native := fun this _ => do
  match ← kindOf? this with
  | some (.regexp _ flags) => return .bool (flags.toList.contains mark)
  | _ =>
    if this = .object (prototypePlace "RegExp") then return .undefined
    else throwType ("RegExp.prototype." ++ name ++ " getter called on non-RegExp object")

def patternMarks : Native := fun this _ => do
  let .object id := this | throwType "RegExp.prototype.flags getter called on non-object"
  let marks ← patternFlags.filterM fun entry => do return (← read id (.name entry.1)).isTruthy
  return .ofString (String.ofList (marks.map (·.2)))

end Run

open Run in
def Class.regexp : Class where
  name := "RegExp"
  length := 2
  call := callPattern
  making :=
    some fun arguments target => makePattern target (argument arguments 0) (argument arguments 1)
  statics := [.species]
  methods := [
    .constant lastIndexKey (.plain (.ofNat 0)),
    .method "test" 1 testMethod,
    .method "exec" 1 execMethod,
    .method "toString" 0 patternText,
    .keyed "match" "[Symbol.match]" 1 matchMethod,
    .keyed "matchAll" "[Symbol.matchAll]" 1 matchAllMethod,
    .keyed "replace" "[Symbol.replace]" 2 replaceMethod,
    .keyed "search" "[Symbol.search]" 1 searchMethod,
    .keyed "split" "[Symbol.split]" 2 splitMethod]
    ++ (patternFlags.map fun (name, mark) => .getter name (patternFlag name mark))
    ++ [.getter "flags" patternMarks, .getter "source" patternSource]

end ServerRender.Script
