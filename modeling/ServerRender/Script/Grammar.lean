import ServerRender.Script.Declaration
import ServerRender.Script.Token

/-!
# Words and operators

What a parser knows of single tokens: the messages about one that does not fit, which
words are names, how tightly operators bind, and which expressions can be given a value.
-/

namespace ServerRender.Script

/-- Where in a script a parser is. -/
structure Context where
  /-- Whether `in` is an operator. -/
  takesIn : Bool
  isGenerator : Bool
  isAsync : Bool
  isFunction : Bool
  isStrict : Bool
  inClass : Bool
  inLoop : Bool
  inChoice : Bool
  /-- The labels around a statement, and which of them stand before a loop. -/
  labels : List (String × Bool)

namespace Context

def script : Context :=
  ⟨true, false, false, false, false, false, false, false, []⟩

/-- The body of a function. -/
def ofFunction (context : Context) (manner : Manner) : Context where
  takesIn := true
  isGenerator := manner.isGenerator
  isAsync := manner.isAsync
  isFunction := true
  isStrict := context.isStrict
  inClass := context.inClass
  inLoop := false
  inChoice := false
  labels := []

end Context

/-- What a parser has before it, and what it has met in the function that it is in. -/
structure Reader where
  tokens : List PlacedToken
  /-- How many names with values have not become targets. -/
  pending : Nat
  /-- What is wrong with the first bad label. -/
  labelFault : Option String
  usesSuper : Bool
  usesSuperCall : Bool
  usesTarget : Bool
  deriving Inhabited

namespace Reader

def ofTokens (tokens : List PlacedToken) : Reader :=
  ⟨tokens, 0, none, false, false, false⟩

end Reader

namespace Source

abbrev Parse := StateT Reader (Except NativeError)

/-! ## Messages -/

def abruptEnd : NativeError :=
  syntaxError "abrupt end"

def unexpected (token : PlacedToken) (message : String) : NativeError :=
  syntaxErrorAt ("unexpected token '" ++ token.token.spelling ++ "', " ++ message) token.position

def expected (what : String) (token : PlacedToken) (context : String) : NativeError :=
  syntaxErrorAt ("expected " ++ what ++ ", got '" ++ token.token.spelling ++ "' in " ++ context)
    token.position

def expectedToken (what : String) (token : PlacedToken) (context : String) : NativeError :=
  expected ("token '" ++ what ++ "'") token context

def expectedEither (one other : String) (token : PlacedToken) (context : String) : NativeError :=
  expected ("one of '" ++ one ++ "' or '" ++ other ++ "'") token context

def invalidTarget (position : Position) : NativeError :=
  syntaxErrorAt "Invalid left-hand side in assignment" position

/-- A fault that is found when a whole script or function has been read. -/
def lateFault (message : String) : NativeError :=
  syntaxErrorAt message ⟨1, 1⟩

/-! ## Single tokens -/

/-- The token behind so many others, which stays; `none` behind the last one. -/
def look? (ahead : Nat) : Parse (Option PlacedToken) := do
  match (← get).tokens[ahead]? with
  | none => return none
  | some token =>
    match token.token with
    | .fault error => throw error
    | _ => return some token

/-- The token behind so many others, which stays and has to be there. -/
def lookAhead (ahead : Nat) : Parse PlacedToken := do
  match ← look? ahead with
  | some token => return token
  | none => throw abruptEnd

/-- The next token, which stays. -/
def peek : Parse PlacedToken :=
  lookAhead 0

def advance : Parse Unit :=
  modify fun reader => { reader with tokens := reader.tokens.tail }

def next : Parse PlacedToken := do
  let token ← peek
  advance
  return token

def isMark (spelling : String) (token : PlacedToken) : Bool :=
  match token.token with
  | .mark mark => mark == spelling
  | _ => false

def isWord (name : String) (token : PlacedToken) : Bool :=
  match token.token with
  | .word word => word == name
  | _ => false

/-- Whether the next token, if there is one, is this mark. -/
def seesMark (spelling : String) : Parse Bool := do
  return ((← look? 0).map (isMark spelling)).getD false

def seesWord (name : String) : Parse Bool := do
  return ((← look? 0).map (isWord name)).getD false

/-- Takes the next token, if there is one, where it is this mark. -/
def takeMark (spelling : String) : Parse Bool := do
  if ← seesMark spelling then
    advance
    return true
  else return false

def takeWord (name : String) : Parse Bool := do
  if ← seesWord name then
    advance
    return true
  else return false

def expectMark (spelling context : String) : Parse Unit := do
  let token ← next
  if !isMark spelling token then throw (expectedToken spelling token context)

def expectWord (name context : String) : Parse Unit := do
  let token ← next
  if !isWord name token then throw (expectedToken name token context)

/-- The end of the token that comes next, if it takes one column. -/
def positionBehind : Parse Position := do
  return Lexeme.shift (← peek).position 1

/-- Whether a statement can end before a token. -/
def endsBefore : Option PlacedToken → Bool
  | none => true
  | some token => isMark ";" token || isMark "\x7d" token || token.startsLine

/-- The end of a statement: a semicolon, or nothing before a brace, on a new line or at
the end. -/
def parseEnd (context : String) : Parse Unit := do
  let token ← look? 0
  if !(← takeMark ";") then
    match token with
    | some token => if !endsBefore token then throw (expectedToken ";" token context)
    | none => return ()

/-- Refuses a token that starts a line. -/
def expectOnLine (context : String) : Parse Unit := do
  let token ← peek
  if token.startsLine then
    throw (syntaxErrorAt ("unexpected token '\n', " ++ context) token.position)

/-! ## Names -/

/-- Words that stand for values. -/
def constantWords : List String :=
  ["true", "false", "null"]

/-- Words that no variable has as its name. -/
def reserved : List String :=
  ["break", "case", "catch", "class", "const", "continue", "debugger", "default", "delete", "do",
    "else", "enum", "export", "extends", "finally", "for", "function", "if", "import", "in",
    "instanceof", "new", "return", "super", "switch", "this", "throw", "try", "typeof", "var", "void",
    "while", "with"]

/-- Words with a meaning that can also be names. -/
def contextualWords : List String :=
  ["async", "await", "let", "of", "yield"]

/-- Words that are reserved in strict code. -/
def strictWords : List String :=
  ["implements", "interface", "let", "package", "private", "protected", "public", "static", "yield"]

def isReserved (name : String) : Bool :=
  reserved.contains name || constantWords.contains name

/-- Whether a token is a name and no other word. -/
def isPlainName (token : PlacedToken) : Bool :=
  match token.token with
  | .word name => !isReserved name && !contextualWords.contains name
  | _ => false

/-- Whether a token is a name or one of these words. -/
def isNameOr (words : List String) (token : PlacedToken) : Bool :=
  isPlainName token || words.any (isWord · token)

/-- The name of a variable. -/
def parseName (context : Context) : Parse String := do
  let token ← next
  match token.token with
  | .word name =>
    if constantWords.contains name then
      throw (expectedToken "identifier" token "identifier parsing")
    if reserved.contains name then throw (unexpected token "reserved word cannot be an identifier")
    if context.isStrict && strictWords.contains name then
      throw (unexpected token "strict reserved word cannot be an identifier")
    if context.isGenerator && name = "yield" then
      throw (syntaxErrorAt "keyword \x60yield\x60 not allowed in this context" token.position)
    if context.isAsync && name = "await" then
      throw (syntaxErrorAt "keyword \x60await\x60 not allowed in this context" token.position)
    return name
  | _ => throw (expectedToken "identifier" token "identifier parsing")

def privateOutside (position : Position) : NativeError :=
  syntaxErrorAt "private identifier declared outside of class" position

/-- The name behind a dot. -/
def parseMemberName (context : Context) (place : String) : Parse Expression := do
  let token ← next
  match token.token with
  | .word name => return .text (Text.units name)
  | .privateName name =>
    if context.inClass then return .secret name else throw (privateOutside token.position)
  | _ => throw (expectedToken "identifier" token place)

/-! ## Operators -/

/-- The operator that a token is and how tightly it binds. -/
def operator? (context : Context) (token : PlacedToken) : Option (Operator × Nat) :=
  match token.token with
  | .mark "|" => some (.bitOr, 3)
  | .mark "^" => some (.bitXor, 4)
  | .mark "&" => some (.bitAnd, 5)
  | .mark "==" => some (.equal, 6)
  | .mark "!=" => some (.notEqual, 6)
  | .mark "===" => some (.same, 6)
  | .mark "!==" => some (.notSame, 6)
  | .mark "<" => some (.less, 7)
  | .mark ">" => some (.greater, 7)
  | .mark "<=" => some (.lessOrEqual, 7)
  | .mark ">=" => some (.greaterOrEqual, 7)
  | .word "in" => if context.takesIn then some (.contains, 7) else none
  | .word "instanceof" => some (.instanceOf, 7)
  | .mark "<<" => some (.shiftLeft, 8)
  | .mark ">>" => some (.shiftRight, 8)
  | .mark ">>>" => some (.shiftRightUnsigned, 8)
  | .mark "+" => some (.add, 9)
  | .mark "-" => some (.subtract, 9)
  | .mark "*" => some (.multiply, 10)
  | .mark "/" => some (.divide, 10)
  | .mark "%" => some (.remainder, 10)
  | _ => none

def connective? (token : PlacedToken) : Option Connective :=
  match token.token with
  | .mark "||" => some .either
  | .mark "&&" => some .both
  | .mark "??" => some .fallback
  | _ => none

def prefix? (token : PlacedToken) : Option Prefix :=
  match token.token with
  | .mark "-" => some .negate
  | .mark "+" => some .number
  | .mark "!" => some .not
  | .mark "~" => some .complement
  | .word "typeof" => some .kind
  | .word "void" => some .nothing
  | .word "delete" => some .delete
  | _ => none

/-- What an assignment makes of the old value and the new one. -/
inductive Joint where
  | operator (which : Operator)
  | connective (which : Connective)

/-- The joint of an assignment that has one. -/
def joint? (token : PlacedToken) : Option Joint :=
  match token.token with
  | .mark "+=" => some (.operator .add)
  | .mark "-=" => some (.operator .subtract)
  | .mark "*=" => some (.operator .multiply)
  | .mark "/=" => some (.operator .divide)
  | .mark "%=" => some (.operator .remainder)
  | .mark "**=" => some (.operator .power)
  | .mark "<<=" => some (.operator .shiftLeft)
  | .mark ">>=" => some (.operator .shiftRight)
  | .mark ">>>=" => some (.operator .shiftRightUnsigned)
  | .mark "&=" => some (.operator .bitAnd)
  | .mark "|=" => some (.operator .bitOr)
  | .mark "^=" => some (.operator .bitXor)
  | .mark "&&=" => some (.connective .both)
  | .mark "||=" => some (.connective .either)
  | .mark "??=" => some (.connective .fallback)
  | _ => none

/-! ## Targets -/

/-- The variable or the member that an expression is, parentheses or not. -/
def place? : Expression → Option Expression
  | .identifier name => some (.identifier name)
  | .member base key => some (.member base key)
  | .superMember key => some (.superMember key)
  | .parenthesized inner => place? inner
  | _ => none

mutual

/-- The target that an expression spells, and how many pending names it takes in. -/
def targetOf? : Expression → Option (Target × Nat)
  | .identifier name => some (.place (.identifier name), 0)
  | .member base key => some (.place (.member base key), 0)
  | .superMember key => some (.place (.superMember key), 0)
  | .parenthesized inner => (place? inner).map (.place ·, 0)
  | .array items => (targetsOfItems? items).map fun (targets, count) => (.list targets, count)
  | .object entries =>
    (targetsOfEntries? entries).map fun (targets, count) => (.record targets, count)
  | .assign target value => some (.default target value, 0)
  | _ => none

def targetsOfItems? : List Expression → Option (List Target × Nat)
  | [] => some ([], 0)
  | [.spread item] => do
    let (target, count) ← targetOf? item
    return ([.rest target], count)
  | .hole :: rest => do
    let (targets, count) ← targetsOfItems? rest
    return (.gap :: targets, count)
  | item :: rest => do
    let (target, first) ← targetOf? item
    let (targets, count) ← targetsOfItems? rest
    return (target :: targets, first + count)

def targetsOfEntries? : List Entry → Option (List Target × Nat)
  | [] => some ([], 0)
  | entry :: rest => do
    let (target, first) ← targetOfEntry? entry rest.isEmpty
    let (targets, count) ← targetsOfEntries? rest
    return (target :: targets, first + count)

def targetOfEntry? : Entry → Bool → Option (Target × Nat)
  | .mk _ role key value, isLast => do
    let (target, count) ← targetOf? value
    match role with
    | .value => return (.field key target, count)
    | .parent => return (.field key target, count)
    | .pending => return (.field key target, count + 1)
    | .copied => if isLast then return (.rest target, count) else none
    | _ => none

end

mutual

/-- Whether a target has names alone, as parameters have. -/
def declares : Target → Bool
  | .place (.identifier _) => true
  | .place _ => false
  | .list items => allDeclare items
  | .record fields => allDeclare fields
  | .field _ target => declares target
  | .default target _ => declares target
  | .rest target => declares target
  | .gap => true

def allDeclare : List Target → Bool
  | [] => true
  | target :: rest => declares target && allDeclare rest

end

/-- The parameters that the expression in front of an arrow spells, and how many pending
names they take in; or what is wrong, by the place of its parenthesis. -/
def parametersOf (start : PlacedToken) : Expression → Except NativeError (List Target × Nat)
  | .binary .sequence first second => do
    let (targets, count) ← parametersOf start first
    let (more, others) ← parametersOf start second
    return (targets ++ more, count + others)
  | .assign target value =>
    if declares target then .ok ([.default target value], 0)
    else
      .error (syntaxErrorAt "invalid initialization expression in formal parameter list" start.position)
  | .object entries =>
    match targetOf? (.object entries) with
    | some (target, count) =>
      if declares target then .ok ([target], count)
      else
        .error (syntaxErrorAt "invalid object binding pattern in formal parameter list" start.position)
    | none => .error (syntaxErrorAt "invalid object binding pattern in formal parameter list" start.position)
  | .array items =>
    match targetOf? (.array items) with
    | some (target, count) =>
      if declares target then .ok ([target], count)
      else
        .error (syntaxErrorAt "invalid array binding pattern in formal parameter list" start.position)
    | none =>
      .error (syntaxErrorAt "invalid array binding pattern in formal parameter list" start.position)
  | .identifier name => .ok ([.place (.identifier name)], 0)
  | _ =>
    .error (syntaxErrorAt
      "unexpected token ')', parenthesized expression with non-binding expression"
      start.position)

/-- Takes pending names for targets. -/
def settle (count : Nat) : Parse Unit :=
  modify fun reader => { reader with pending := reader.pending - count }

/-! ## Functions by their names -/

/-- A function or a class without name under a name. -/
def nameFunction (name : String) : Expression → Expression
  | .closure procedure =>
    .closure (if procedure.name.isEmpty then procedure.named name else procedure)
  | .classDefinition blueprint =>
    .classDefinition (if blueprint.name.isEmpty then blueprint.named name else blueprint)
  | other => other

/-- A value for a target, which gives a function its name. -/
def nameFor (target : Target) (value : Expression) : Expression :=
  match target with
  | .place (.identifier name) => nameFunction name value
  | _ => value

/-- Whether parameters are names alone. -/
def areSimple (parameters : List Target) : Bool :=
  parameters.all fun
    | .place (.identifier _) => true
    | _ => false

def hasDuplicates (names : List String) : Bool :=
  names.length != names.eraseDups.length

/-- Whether the texts that statements start with include the directive that makes code
strict. -/
def startsStrict (tokens : List PlacedToken) : Bool :=
  let isText (content : String) (token : PlacedToken) : Bool :=
    match token.token with
    | .text units => units == Text.units content
    | _ => false
  let texts := tokens.takeWhile fun token =>
    isMark ";" token || (match token.token with
      | .text _ => true
      | _ => false)
  texts.any (isText "use strict")

end Source

end ServerRender.Script
