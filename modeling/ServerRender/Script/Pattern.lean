import ServerRender.Script.Numeral
import ServerRender.Text.Case
import ServerRender.Text.Name

/-!
# Patterns

Regular expressions: how they are written, what is wrong with one, and where one
matches. A match is searched by trying the parts of a pattern from left to right and
going back to the last choice where one fails; the fuel bounds the length of such a
path, not how many there are.
-/

namespace ServerRender.Script

namespace Pattern

/-! ## Structure -/

/-- What a set of characters holds. -/
inductive Item where
  | range (low high : Nat)
  | digits (negated : Bool)
  | spaces (negated : Bool)
  | wordCharacters (negated : Bool)
  deriving DecidableEq, Inhabited

inductive Node where
  | empty
  | code (n : Nat)
  | any
  | set (negated : Bool) (items : List Item)
  | both (first second : Node)
  | either (first second : Node)
  /-- Remembers what it matches. -/
  | group (index : Nat) (inner : Node)
  /-- What a group has matched. -/
  | again (index : Nat)
  | namedAgain (name : String)
  | start
  | finish
  | edge (negated : Bool)
  /-- Matches without moving on; `behind` looks at what is in front of the place. -/
  | look (behind negated : Bool) (inner : Node)
  /-- Repeats a part; its groups are those from an index on. -/
  | repeated (least : Nat) (most : Option Nat) (greedy : Bool) (firstGroup lastGroup : Nat)
    (inner : Node)
  deriving Inhabited

/-- A pattern that has been read. -/
structure Compiled where
  root : Node
  /-- How many groups there are. -/
  groups : Nat
  names : List (String × Nat)
  ignoresCase : Bool
  multiline : Bool
  dotMatchesAll : Bool
  /-- Whether characters beyond the first 65536 count as one. -/
  byCharacter : Bool
  deriving Inhabited

/-! ## Flags -/

def knownFlags : List Char :=
  ['d', 'g', 'i', 'm', 's', 'u', 'v', 'y']

/-- What is wrong with flags. -/
def flagFault? (flags : List Char) : Option String :=
  let rec scan (seen : List Char) : List Char → Option String
    | [] =>
      if seen.contains 'u' && seen.contains 'v' then some "cannot use both 'u' and 'v' flags"
      else none
    | c :: rest =>
      if !knownFlags.contains c then some ("invalid regular expression flag " ++ String.ofList [c])
      else if seen.contains c then some ("repeated regular expression flag " ++ String.ofList [c])
      else scan (c :: seen) rest
  scan [] flags

/-! ## Reading -/

structure Reader where
  rest : List Char
  groups : Nat
  names : List (String × Nat)
  deriving Inhabited

abbrev Reading := StateT Reader (Except String)

def peek? : Reading (Option Char) := do
  return (← get).rest.head?

def skip (count : Nat) : Reading Unit :=
  modify fun reader => { reader with rest := reader.rest.drop count }

/-- Takes a text that comes next. -/
def take? (text : String) : Reading Bool := do
  if text.toList.isPrefixOf (← get).rest then
    skip text.length
    return true
  else return false

/-- Takes the characters of a kind that come next. -/
def takeWhile (p : Char → Bool) : Reading (List Char) := do
  let taken := (← get).rest.takeWhile p
  skip taken.length
  return taken

/-- The name of a group up to its closing bracket. -/
def takeGroupName : Reading (Option String) := do
  if !(← take? "<") then return none
  let name ← takeWhile fun c => c != '>'
  let isName := match name with
    | [] => false
    | c :: rest => Text.isNameStart c && rest.all Text.isNamePart
  if !isName then return none
  if ← take? ">" then return some (String.ofList name) else return none

/-- The code of so many hexadecimal digits that come next. -/
def takeHex? (count : Nat) : Reading (Option Nat) := do
  let digits := (← get).rest.take count
  if digits.length = count then
    match Lexeme.wholeIn? 16 digits with
    | some n =>
      skip count
      return some n
    | none => return none
  else return none

/-- The code of an escape of four digits or in braces; of two surrogates one character. -/
def takeUnicode? (byCharacter : Bool) : Reading (Option Nat) := do
  let isBraced ← if byCharacter then take? "\x7b" else pure false
  if isBraced then
    let digits ← takeWhile fun c => c != '\x7d'
    match Lexeme.wholeIn? 16 digits, ← take? "\x7d" with
    | some n, true => return if n ≤ 0x10FFFF then some n else none
    | _, _ => return none
  match ← takeHex? 4 with
  | none => return none
  | some high =>
    let isPair ← if byCharacter && 0xD800 ≤ high && high < 0xDC00 then take? "\\u" else pure false
    if isPair then
      match ← takeHex? 4 with
      | some low =>
        if 0xDC00 ≤ low && low < 0xE000 then
          return some (0x10000 + (high - 0xD800) * 0x400 + (low - 0xDC00))
        else return none
      | none => return none
    else return some high

/-- Characters that have a meaning of their own in patterns. -/
def marks : List Char :=
  ['^', '$', '\\', '.', '*', '+', '?', '(', ')', '[', ']', '\x7b', '\x7d', '|', '/']

/-- The code that an escape stands for behind its backslash and first character. -/
def takeEscape (byCharacter : Bool) (c : Char) : Reading Nat := do
  match c with
  | 'f' => return 12
  | 'n' => return 10
  | 'r' => return 13
  | 't' => return 9
  | 'v' => return 11
  | '0' =>
    let more ← takeWhile Char.isDigit
    if more.isEmpty then return 0
    else if byCharacter then throw "Invalid character escape"
    else return Lexeme.valueIn 8 more
  | 'c' =>
    match ← peek? with
    | some letter =>
      if letter.isAlpha then
        skip 1
        return letter.toNat % 32
      else if byCharacter then throw "Invalid character escape"
      else return '\\'.toNat
    | none => if byCharacter then throw "Invalid character escape" else return '\\'.toNat
  | 'x' =>
    match ← takeHex? 2 with
    | some n => return n
    | none => if byCharacter then throw "Invalid character escape" else return 'x'.toNat
  | 'u' =>
    match ← takeUnicode? byCharacter with
    | some n => return n
    | none => if byCharacter then throw "Invalid unicode escape" else return 'u'.toNat
  | _ =>
    if byCharacter && !marks.contains c && c != '-' then throw "Invalid character escape"
    else return c.toNat

/-- The set that an escape stands for. -/
def classItem? (c : Char) : Option Item :=
  match c with
  | 'd' => some (.digits false)
  | 'D' => some (.digits true)
  | 's' => some (.spaces false)
  | 'S' => some (.spaces true)
  | 'w' => some (.wordCharacters false)
  | 'W' => some (.wordCharacters true)
  | _ => none

/-- A character or a set between brackets. -/
def takeSetItem (byCharacter : Bool) : Reading Item := do
  match ← peek? with
  | none => throw "Unbalanced bracket"
  | some '\\' =>
    skip 1
    match ← peek? with
    | none => throw "Unbalanced bracket"
    | some c =>
      skip 1
      match classItem? c with
      | some item => return item
      | none =>
        let n ← if c = 'b' then pure 8 else takeEscape byCharacter c
        return .range n n
  | some c =>
    skip 1
    return .range c.toNat c.toNat

/-- The items of a set up to its closing bracket. -/
def takeSet (byCharacter : Bool) : Nat → List Item → Reading (List Item)
  | 0, _ => throw "Unbalanced bracket"
  | fuel + 1, before => do
    if ← take? "]" then return before.reverse
    let item ← takeSetItem byCharacter
    let rest := (← get).rest
    match rest with
    | '-' :: c :: _ =>
      if c = ']' then takeSet byCharacter fuel (item :: before)
      else
        skip 1
        let last ← takeSetItem byCharacter
        match item, last with
        | .range low _, .range _ high =>
          if high < low then
            throw "Range values reversed, start char code is greater than end char code."
          else takeSet byCharacter fuel (.range low high :: before)
        | _, _ =>
          if byCharacter then throw "Invalid character range"
          else takeSet byCharacter fuel (last :: .range 45 45 :: item :: before)
    | _ => takeSet byCharacter fuel (item :: before)

/-- How often a part is repeated, if a quantifier in braces comes next. -/
def takeBraces? : Reading (Option (Nat × Option Nat)) := do
  let before ← get
  let giveUp : Reading (Option (Nat × Option Nat)) := do
    set before
    return none
  if !(← take? "\x7b") then return none
  match Lexeme.wholeIn? 10 (← takeWhile Char.isDigit) with
  | none => giveUp
  | some least =>
    if ← take? "\x7d" then return some (least, some least)
    else if ← take? "," then
      let most ← takeWhile Char.isDigit
      if ← take? "\x7d" then return some (least, Lexeme.wholeIn? 10 most) else giveUp
    else giveUp

/-- How often a part is repeated, if a quantifier comes next. -/
def takeQuantifier? : Reading (Option (Nat × Option Nat)) := do
  if ← take? "*" then return some (0, none)
  else if ← take? "+" then return some (1, none)
  else if ← take? "?" then return some (0, some 1)
  else takeBraces?

/-- The codes of a character: one, or its two halves. -/
def ofChar (byCharacter : Bool) (c : Char) : Node :=
  if byCharacter then .code c.toNat
  else match Text.unitsOfChar c with
    | [unit] => .code unit.toNat
    | units => units.foldr (fun unit rest => .both (.code unit.toNat) rest) .empty

/-- How many groups a text opens, and whether it names one. -/
def countGroups : List Char → Nat × Bool
  | '\\' :: _ :: rest => countGroups rest
  | '(' :: '?' :: '<' :: c :: rest =>
    let (count, named) := countGroups rest
    if c = '=' || c = '!' then (count, named) else (count + 1, true)
  | '(' :: '?' :: rest => countGroups rest
  | '(' :: rest =>
    let (count, named) := countGroups rest
    (count + 1, named)
  | _ :: rest => countGroups rest
  | [] => (0, false)

/-- An escape outside of sets. `total` is how many groups there are, and `named` whether
one has a name. -/
def takeAtomEscape (byCharacter : Bool) (total : Nat) (named : Bool) : Reading Node := do
  match ← peek? with
  | none => throw "Incomplete escape"
  | some c =>
    if c.isDigit && c != '0' then
      let rest := (← get).rest
      let n := Lexeme.valueIn 10 (rest.takeWhile Char.isDigit)
      if n ≤ total then
        skip (rest.takeWhile Char.isDigit).length
        return .again n
      else if byCharacter then throw "Invalid character escape"
      else
        let octal := rest.takeWhile fun c => (Lexeme.digitIn? 8 c).isSome
        if octal.isEmpty then
          skip 1
          return .code c.toNat
        else
          skip (octal.take 3).length
          return .code (Lexeme.valueIn 8 (octal.take 3))
    else
      skip 1
      match classItem? c with
      | some item => return .set false [item]
      | none =>
        if c = 'k' && (byCharacter || named) then
          match ← takeGroupName with
          | some name => return .namedAgain name
          | none => throw "Invalid named reference"
        else if !byCharacter && !c.isAlphanum then return ofChar byCharacter c
        else return .code (← takeEscape byCharacter c)

mutual

/-- Alternatives up to a closing parenthesis or the end. -/
def takeChoice (byCharacter : Bool) (total : Nat) (named : Bool) : Nat → Reading Node
  | 0 => throw "Unbalanced parenthesis"
  | fuel + 1 => do
    let first ← takeTerms byCharacter total named fuel .empty
    if ← take? "|" then return .either first (← takeChoice byCharacter total named fuel)
    else return first

/-- Terms one after the other behind those that are read. -/
def takeTerms (byCharacter : Bool) (total : Nat) (named : Bool) : Nat → Node → Reading Node
  | 0, _ => throw "Unbalanced parenthesis"
  | fuel + 1, before => do
    match ← peek? with
    | none => return before
    | some '|' => return before
    | some ')' => return before
    | some _ =>
      let firstGroup := (← get).groups
      let (term, repeats) ← takeTerm byCharacter total named fuel
      let quantifier ← if repeats then takeQuantifier? else pure none
      match quantifier with
      | none => takeTerms byCharacter total named fuel (.both before term)
      | some (least, most) =>
        let lazily ← take? "?"
        if (most.map fun m => decide (m < least)).getD false then throw "Invalid quantifier"
        takeTerms byCharacter total named fuel
          (.both before (.repeated least most (!lazily) (firstGroup + 1) (← get).groups term))

/-- A term, and whether it may be repeated. -/
def takeTerm (byCharacter : Bool) (total : Nat) (named : Bool) : Nat → Reading (Node × Bool)
  | 0 => throw "Unbalanced parenthesis"
  | fuel + 1 => do
    let inParentheses : Reading Node := do
      let inner ← takeChoice byCharacter total named fuel
      if ← take? ")" then return inner else throw "Unbalanced parenthesis"
    match ← peek? with
    | none => return (.empty, false)
    | some '^' =>
      skip 1
      return (.start, false)
    | some '$' =>
      skip 1
      return (.finish, false)
    | some '.' =>
      skip 1
      return (.any, true)
    | some '[' =>
      skip 1
      let negated ← take? "^"
      return (.set negated (← takeSet byCharacter ((← get).rest.length + 1) []), true)
    | some '\\' =>
      skip 1
      if ← take? "b" then return (.edge false, false)
      else if ← take? "B" then return (.edge true, false)
      else return (← takeAtomEscape byCharacter total named, true)
    | some '(' =>
      skip 1
      if ← take? "?:" then return (← inParentheses, true)
      else if ← take? "?=" then return (.look false false (← inParentheses), !byCharacter)
      else if ← take? "?!" then return (.look false true (← inParentheses), !byCharacter)
      else if ← take? "?<=" then return (.look true false (← inParentheses), false)
      else if ← take? "?<!" then return (.look true true (← inParentheses), false)
      else
        let name ← if ← take? "?" then do
            match ← takeGroupName with
            | some name => pure (some name)
            | none => throw "Invalid token at named capture group identifier"
          else pure none
        let index := (← get).groups + 1
        if let some name := name then
          if ((← get).names.lookup name).isSome then throw "Duplicate capture group name"
          modify fun reader => { reader with names := reader.names ++ [(name, index)] }
        modify fun reader => { reader with groups := index }
        return (.group index (← inParentheses), true)
    | some c =>
      if c = '*' || c = '+' || c = '?' then throw "Invalid atom character"
      if c = '\x7b' && (← takeBraces?).isSome then throw "Invalid braced quantifier"
      if byCharacter && (c = '\x7b' || c = '\x7d' || c = ']') then throw "Invalid atom character"
      skip 1
      return (ofChar byCharacter c, true)

end

/-- The pattern that a text with flags spells, or what is wrong with it. -/
def compile (body flags : String) : Except String Compiled := do
  let flags := flags.toList
  let byCharacter := flags.contains 'u' || flags.contains 'v'
  let text := body.toList
  let (total, named) := countGroups text
  let (root, reader) ←
    (takeChoice byCharacter total named (8 * text.length + 8)).run ⟨text, 0, []⟩
  match reader.rest with
  | [] =>
    return ⟨root, reader.groups, reader.names, flags.contains 'i', flags.contains 'm', flags.contains 's',
      byCharacter⟩
  | _ => throw "Unbalanced parenthesis"

/-! ## Matching -/

/-- Where a search stands, and what the groups have matched. -/
structure Place where
  position : Nat
  groups : Array (Option (Nat × Nat))
  deriving Inhabited

/-- The code at a place and how many units it takes. -/
def codeAt? (pattern : Compiled) (text : Array UInt16) (position : Nat) : Option (Nat × Nat) := do
  let first ← text[position]?
  match text[position + 1]? with
  | some second =>
    if pattern.byCharacter && Text.isHighSurrogate first && Text.isLowSurrogate second then
      return (0x10000 + (first.toNat - 0xD800) * 0x400 + (second.toNat - 0xDC00), 2)
    else return (first.toNat, 1)
  | none => return (first.toNat, 1)

/-- The code in front of a place and how many units it takes. -/
def codeBefore? (pattern : Compiled) (text : Array UInt16) (position : Nat) : Option (Nat × Nat) :=
  if position = 0 then none
  else match (if 2 ≤ position then codeAt? pattern text (position - 2) else none) with
    | some (code, 2) => some (code, 2)
    | _ => codeAt? pattern text (position - 1)

/-- The form in which codes are compared. -/
def canonical (pattern : Compiled) (code : Nat) : Nat :=
  if pattern.ignoresCase then
    match Text.upperChar (Char.ofNat code) with
    | [c] => if 128 ≤ code && c.toNat < 128 then code else c.toNat
    | _ => code
  else code

def isWordCode (code : Nat) : Bool :=
  code == 95 || (code < 128 && (Char.ofNat code).isAlphanum)

def isLineEndCode (code : Nat) : Bool :=
  code == 10 || code == 13 || code == 0x2028 || code == 0x2029

def Item.holds (pattern : Compiled) (code : Nat) : Item → Bool
  | range low high =>
    low ≤ code && code ≤ high
      || pattern.ignoresCase
        && ((List.range (min (high + 1 - low) 512)).any fun offset =>
          canonical pattern (low + offset) == canonical pattern code)
  | digits negated => (48 ≤ code && code ≤ 57) != negated
  | spaces negated => Lexeme.isSpace (Char.ofNat code) != negated
  | wordCharacters negated => isWordCode code != negated

/-- Whether a node that takes one character takes this one. -/
def takesCode (pattern : Compiled) (node : Node) (code : Nat) : Bool :=
  match node with
  | .code n => canonical pattern n == canonical pattern code
  | .any => pattern.dotMatchesAll || !isLineEndCode code
  | .set negated items => (items.any (·.holds pattern code)) != negated
  | _ => false

/-- Whether a word starts or ends at a place. -/
def isEdge (text : Array UInt16) (position : Nat) : Bool :=
  let isWord (index : Option Nat) : Bool :=
    ((index.bind (text[·]?)).map fun unit => isWordCode unit.toNat).getD false
  isWord (if position = 0 then none else some (position - 1)) != isWord (some position)

/-- Matches a node at a place, backwards in front of it, and goes on from where it ends.
What a group has matched is forgotten before the group is repeated. -/
def matchNode (pattern : Compiled) (text : Array UInt16) :
    Nat → Node → Bool → Place → (Place → Option Place) → Option Place
  | 0, _, _, _, _ => none
  | fuel + 1, node, backwards, place, goOn =>
    let one : Option Place :=
      match (if backwards then codeBefore? pattern text place.position
        else codeAt? pattern text place.position) with
      | some (code, size) =>
        if takesCode pattern node code then
          goOn { place with
            position := if backwards then place.position - size else place.position + size }
        else none
      | none => none
    let same (index : Nat) : Option Place :=
      match place.groups[index]?.join with
      | none => goOn place
      | some (first, last) =>
        let size := last - first
        let start := if backwards then place.position - size else place.position
        if backwards && place.position < size then none
        else
          let agrees := (List.range size).all fun offset =>
            ((text[first + offset]?).map fun unit => canonical pattern unit.toNat)
              == ((text[start + offset]?).map fun unit => canonical pattern unit.toNat)
          if agrees then
            goOn { place with position := if backwards then start else place.position + size }
          else none
    match node with
    | .empty => goOn place
    | .code _ => one
    | .any => one
    | .set _ _ => one
    | .both first second =>
      let (before, after) := if backwards then (second, first) else (first, second)
      matchNode pattern text fuel before backwards place fun middle =>
        matchNode pattern text fuel after backwards middle goOn
    | .either first second =>
      (matchNode pattern text fuel first backwards place goOn).orElse fun _ =>
        matchNode pattern text fuel second backwards place goOn
    | .group index inner =>
      matchNode pattern text fuel inner backwards place fun after =>
        let bounds :=
          if backwards then (after.position, place.position) else (place.position, after.position)
        goOn { after with groups := after.groups.setIfInBounds index (some bounds) }
    | .again index => same index
    | .namedAgain name =>
      match pattern.names.lookup name with
      | some index => same index
      | none => goOn place
    | .start =>
      let isStart := place.position = 0
        || pattern.multiline
          && ((text[place.position - 1]?).map fun unit => isLineEndCode unit.toNat).getD false
      if isStart then goOn place else none
    | .finish =>
      let isEnd := match text[place.position]? with
        | none => true
        | some unit => pattern.multiline && isLineEndCode unit.toNat
      if isEnd then goOn place else none
    | .edge negated => if isEdge text place.position != negated then goOn place else none
    | .look behind negated inner =>
      match matchNode pattern text fuel inner behind place some, negated with
      | some found, false => goOn { found with position := place.position }
      | none, true => goOn place
      | _, _ => none
    | .repeated least most greedy firstGroup lastGroup inner =>
      let cleared := (List.range (lastGroup + 1 - firstGroup)).foldl
        (fun groups offset => groups.setIfInBounds (firstGroup + offset) none) place.groups
      let once : Option Place :=
        if most == some 0 then none
        else matchNode pattern text fuel inner backwards { place with groups := cleared } fun after =>
          if least = 0 && after.position = place.position then none
          else matchNode pattern text fuel
            (.repeated (least - 1) (most.map (· - 1)) greedy firstGroup lastGroup inner)
            backwards after goOn
      if 0 < least then once
      else if greedy then once.orElse fun _ => goOn place
      else (goOn place).orElse fun _ => once

/-- What the groups match where the pattern matches at a place; the whole match comes
first. -/
def matchAt? (pattern : Compiled) (text : Array UInt16) (position : Nat) :
    Option (Array (Option (Nat × Nat))) :=
  let start : Place := ⟨position, Array.replicate (pattern.groups + 1) none⟩
  (matchNode pattern text (64 * (text.size + 1) + 100000) (.group 0 pattern.root) false start some).map
    Place.groups

/-- The first match from a place on, as far as so many places. -/
def findFrom? (pattern : Compiled) (text : Array UInt16) :
    Nat → Nat → Option (Array (Option (Nat × Nat)))
  | 0, _ => none
  | count + 1, position =>
    (matchAt? pattern text position).orElse fun _ => findFrom? pattern text count (position + 1)

end Pattern

end ServerRender.Script
