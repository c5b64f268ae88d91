import ServerRender.Script.Grammar

/-!
# Source texts

From tokens to expressions and statements. A text that is none is refused at the first
token that does not fit; a few faults are found at the end of the function or of the
script that they stand in. Every function takes a token for each few steps that it
makes, so the fuel that bounds the steps is counted out from the text.
-/

namespace ServerRender.Script

namespace Source

/-! ## Functions -/

/-- Parses a function, which has a `this` of its own. It may use the members of its
parent only as a method, and call its parent only as a constructor that has one. -/
def parseBounded (start : Position) (mayUse mayCall : Bool) (parse : Parse α) : Parse α := do
  let outer ← get
  set { outer with labelFault := none, usesSuper := false, usesSuperCall := false, usesTarget := false }
  let result ← parse
  let inner ← get
  if inner.usesSuper && !mayUse || inner.usesSuperCall && !mayCall then
    throw (syntaxErrorAt "invalid super usage" start)
  set { outer with tokens := inner.tokens, pending := inner.pending }
  return result

/-- What is wrong with the statements of a script or a function as a whole. -/
def checkStatements (commands : List Command) (pending : Nat) (what : String) : Parse Unit := do
  if clashes commands then throw (lateFault "lexical name declared multiple times")
  let reader ← get
  if let some fault := reader.labelFault then throw (lateFault fault)
  if pending < reader.pending then
    throw (lateFault ("invalid object literal in " ++ what ++ " statement list"))

/-- Refuses a body that declares a parameter again. -/
def checkParameters (start : Position) (parameters : List Target) (body : List Command) :
    Parse Unit := do
  let locals := (localsOf body).map (·.1)
  match (namesOfAll parameters).find? locals.contains with
  | some name =>
    throw (syntaxErrorAt
      ("formal parameter \x60" ++ name ++ "\x60 declared in lexically declared names") start)
  | none => return ()

/-- The contexts that messages about functions name. -/
def functionPlace (manner : Manner) (what : String) : String :=
  match manner.isAsync, manner.isGenerator with
  | true, true => "async generator " ++ what
  | true, false => "async function " ++ what
  | false, true => "generator " ++ what
  | false, false => "function " ++ what

def methodPlace (manner : Manner) : String :=
  match manner.isAsync, manner.isGenerator with
  | true, true => "async generator method definition"
  | true, false => "async method definition"
  | false, true => "generator method definition"
  | false, false => "method definition"

/-- A constructor that leaves all to its parent. -/
def forwardingMaker (name : String) (manner : Manner) : Procedure :=
  .mk name manner [.rest (.place (.identifier "args"))]
    [.evaluate (.superCall [.spread (.identifier "args")])]

/-! ## Labels -/

def noteFault (message : String) : Parse Unit :=
  modify fun reader => { reader with labelFault := reader.labelFault.or (some message) }

def checkBreak (context : Context) : Option String → Parse Unit
  | none => do
    if !(context.inLoop || context.inChoice) then noteFault "illegal break statement"
  | some label => do
    if (context.labels.lookup label).isNone then noteFault ("undefined break target: " ++ label)

def checkContinue (context : Context) : Option String → Parse Unit
  | none => do
    if !context.inLoop then noteFault "illegal continue statement"
  | some label => do
    if !(context.inLoop && context.labels.lookup label == some true) then
      noteFault ("undefined continue target: " ++ label)

/-- Whether the statement behind some labels is a loop. -/
def startsLoop : List PlacedToken → Bool
  | first :: second :: rest =>
    ["for", "while", "do"].any (isWord · first) || (isMark ":" second && startsLoop rest)
  | [first] => ["for", "while", "do"].any (isWord · first)
  | [] => false

/-- Whether a declaration follows the word `let`. -/
def declaresBehind : Option PlacedToken → Bool
  | some token => isNameOr contextualWords token || isMark "[" token || isMark "\x7b" token
  | none => false

/-- Whether a word is one that no value starts with. -/
def endsYield : Option PlacedToken → Bool
  | none => true
  | some token => token.startsLine || [")", "]", "\x7d", ",", ";", ":"].any (isMark · token)
    || isWord "in" token || isWord "of" token

/-! ## Parts of statements -/

/-- Whether the word `async` stands before the parameters of an arrow function. -/
def startsAsyncArrow (start : PlacedToken) : Parse Bool := do
  if !isWord "async" start then return false
  let after ← lookAhead 1
  return !after.startsLine && (isNameOr ["await", "yield"] after || isMark "(" after)

/-- The text of a key that is written out. -/
def spellingOf : Expression → String
  | .text units => Text.ofUnits units
  | _ => ""

/-- Refuses a name that is declared twice, or that is `let`. -/
def checkLexicals (start : PlacedToken) (commands : List Command) : Parse Unit := do
  let names := (localsOf commands).map (·.1)
  if names.contains "let" then
    throw (syntaxErrorAt "'let' is disallowed as a lexically bound name" start.position)
  if hasDuplicates names then
    throw (syntaxErrorAt "lexical name declared multiple times" start.position)

/-- The label behind a word on its line. -/
def parseLabel? (context : Context) : Parse (Option String) := do
  if endsBefore (← look? 0) then return none else return some (← parseName context)

/-- The target of a loop that runs over something. -/
def rangeTarget? : List Command → Option (Target × Nat)
  | [.declare _ target .undefined] => some (target, 0)
  | [.mention name] => some (.place (.identifier name), 0)
  | [.evaluate expression] => targetOf? expression
  | _ => none

/-! ## Expressions and statements -/

mutual

/-- Expressions with commas between them. A comma before a closing parenthesis or
before dots is left. -/
def parseExpression : Nat → Context → Parse Expression
  | 0, _ => throw abruptEnd
  | fuel + 1, context => do parseSequence fuel context (← parseAssignment fuel context)

def parseSequence : Nat → Context → Expression → Parse Expression
  | 0, _, _ => throw abruptEnd
  | fuel + 1, context, left => do
    if ← seesMark "," then
      let after ← lookAhead 1
      if isMark ")" after || isMark "..." after then return left
      else
        advance
        let right ← parseAssignment fuel context
        parseSequence fuel context (.binary .sequence left right)
    else return left

def parseAssignment : Nat → Context → Parse Expression
  | 0, _ => throw abruptEnd
  | fuel + 1, context => do
    let start ← peek
    if context.isGenerator && isWord "yield" start then
      advance
      parseYield fuel context
    else if isNameOr ["await", "let", "of", "yield"] start
      && ((← look? 1).map (isMark "=>")).getD false then
      let name ← parseName context
      parseArrow fuel context .arrow [.place (.identifier name)] "arrow function" start.position
    else if ← startsAsyncArrow start then
      advance
      parseAsyncArrow fuel context
    else
      let left ← parseConditional fuel context
      match ← look? 0 with
      | none => return left
      | some token => parseAssignmentTo fuel context left token

/-- What may follow the left side of an assignment. -/
def parseAssignmentTo : Nat → Context → Expression → PlacedToken → Parse Expression
  | 0, _, _, _ => throw abruptEnd
  | fuel + 1, context, left, token => do
    if isMark "=" token then
      match targetOf? left with
      | some (.default _ _, _) => throw (invalidTarget token.position)
      | none => throw (invalidTarget token.position)
      | some (target, count) =>
        settle count
        advance
        let value ← parseAssignment fuel context
        return .assign target (nameFor target value)
    else match joint? token with
      | none => return left
      | some joint =>
        advance
        match place? left with
        | none => throw (invalidTarget token.position)
        | some place =>
          let value ← parseAssignment fuel context
          match joint with
          | .operator which => return .compound which place value
          | .connective which =>
            return .connectAssign which place (nameFor (.place place) value)

/-- What a generator gives, behind its word. -/
def parseYield : Nat → Context → Parse Expression
  | 0, _ => throw abruptEnd
  | fuel + 1, context => do
    if endsYield (← look? 0) then return .yield false .undefined
    else if ← takeMark "*" then return .yield true (← parseAssignment fuel context)
    else return .yield false (← parseAssignment fuel context)

/-- An arrow function behind the word `async`. -/
def parseAsyncArrow : Nat → Context → Parse Expression
  | 0, _ => throw abruptEnd
  | fuel + 1, context => do
    let manner := { Manner.arrow with isAsync := true }
    let inner := { context with isAsync := true }
    let place := "async arrow function"
    let start ← peek
    if ← takeMark "(" then
      let parameters ← parseParameters fuel inner none []
      expectMark ")" place
      parseArrow fuel context manner parameters place (Lexeme.shift start.position 1)
    else
      let name ← parseName inner
      parseArrow fuel context manner [.place (.identifier name)] place start.position

/-- An arrow function from its arrow on. -/
def parseArrow : Nat → Context → Manner → List Target → String → Position → Parse Expression
  | 0, _, _, _, _, _ => throw abruptEnd
  | fuel + 1, context, manner, parameters, place, start => do
    expectOnLine place
    expectMark "=>" place
    let manner := { manner with isStrict := context.isStrict }
    let fault := (← get).labelFault
    if ← takeMark "\x7b" then
      let (body, isStrict) ← parseBody fuel context manner place
      modify fun reader => { reader with labelFault := fault }
      checkParameters start parameters body
      return .closure (.mk "" { manner with isStrict } parameters body)
    else
      let inner := { context.ofFunction manner with takesIn := context.takesIn }
      return .closure (.mk "" manner parameters [.returns (← parseAssignment fuel inner)])

/-- The statements of a function behind its opening brace, and whether they are strict. -/
def parseBody : Nat → Context → Manner → String → Parse (List Command × Bool)
  | 0, _, _, _ => throw abruptEnd
  | fuel + 1, context, manner, place => do
    let reader ← get
    let isStrict := manner.isStrict || context.isStrict || startsStrict reader.tokens
    set { reader with labelFault := none }
    let inner := { context.ofFunction manner with isStrict }
    let commands ← parseStatements fuel inner ["\x7d"] []
    checkStatements commands reader.pending "function"
    expectMark "\x7d" place
    return (commands, isStrict)

def parseConditional : Nat → Context → Parse Expression
  | 0, _ => throw abruptEnd
  | fuel + 1, context => do
    let condition ← parseConnected fuel context none (← parseBinary fuel context 0)
    if ← takeMark "?" then
      let yes ← parseAssignment fuel { context with takesIn := true }
      expectMark ":" "conditional expression"
      return .choose condition yes (← parseAssignment fuel context)
    else return condition

/-- The connectives behind an operand. A fallback does not stand beside another one. -/
def parseConnected : Nat → Context → Option Connective → Expression → Parse Expression
  | 0, _, _, _ => throw abruptEnd
  | fuel + 1, context, previous, left => do
    match ← look? 0 with
    | none => return left
    | some token =>
      match connective? token with
      | none => return left
      | some .fallback =>
        if previous.isSome && previous != some .fallback then
          throw (expectedEither "&&" "||" token
            "cannot use '??' unparenthesized within '||' or '&&'")
        advance
        let right ← parseBinary fuel context 0
        parseConnected fuel context (some .fallback) (.connect .fallback left right)
      | some connective =>
        if previous == some .fallback then
          throw (expectedToken "??" token
            "logical expression (cannot use '??' without parentheses within '||' or '&&')")
        advance
        let operand ← parseBinary fuel context 0
        let right ← if connective == .either then parseConnected fuel context (some .either) operand
          else pure operand
        parseConnected fuel context (some connective) (.connect connective left right)

/-- An expression whose operators bind at least this tightly. -/
def parseBinary : Nat → Context → Nat → Parse Expression
  | 0, _, _ => throw abruptEnd
  | fuel + 1, context, least => do
    let token ← peek
    match token.token with
    | .privateName name =>
      if context.takesIn && least ≤ 7 then
        let after ← lookAhead 1
        if !isWord "in" after then throw (expectedToken "in" after "relational expression")
        if !context.inClass then throw (privateOutside token.position)
        advance
        advance
        let right ← parseBinary fuel context 8
        parseOperators fuel context least (.binary .contains (.secret name) right)
      else parseOperators fuel context least (← parsePower fuel context)
    | _ => parseOperators fuel context least (← parsePower fuel context)

/-- The operators behind a left operand. -/
def parseOperators : Nat → Context → Nat → Expression → Parse Expression
  | 0, _, _, _ => throw abruptEnd
  | fuel + 1, context, least, left => do
    match (← look? 0).bind (operator? context) with
    | some (which, strength) =>
      if strength < least then return left
      else
        advance
        let right ← parseBinary fuel context (strength + 1)
        parseOperators fuel context least (.binary which left right)
    | none => return left

/-- A power, which groups to the right, or an operand with operators in front. -/
def parsePower : Nat → Context → Parse Expression
  | 0, _ => throw abruptEnd
  | fuel + 1, context => do
    let token ← peek
    if (prefix? token).isSome || (context.isAsync && isWord "await" token) then
      parseUnary fuel context
    else
      let base ← parseUpdate fuel context
      if ← takeMark "**" then return .binary .power base (← parsePower fuel context)
      else return base

def parseUnary : Nat → Context → Parse Expression
  | 0, _ => throw abruptEnd
  | fuel + 1, context => do
    let token ← peek
    match prefix? token with
    | some operator =>
      advance
      return .unary operator (← parseUnary fuel context)
    | none =>
      if context.isAsync && isWord "await" token then
        advance
        return .await (← parseUnary fuel context)
      else parseUpdate fuel context

def parseUpdate : Nat → Context → Parse Expression
  | 0, _ => throw abruptEnd
  | fuel + 1, context => do
    let token ← peek
    if isMark "++" token || isMark "--" token then
      advance
      match place? (← parseUnary fuel context) with
      | some place => return .step false (if isMark "++" token then .add else .subtract) place
      | none => throw (invalidTarget token.position)
    else
      let operand ← parseLeft fuel context
      match ← look? 0 with
      | none => return operand
      | some after =>
        if !after.startsLine && (isMark "++" after || isMark "--" after) then
          advance
          match place? operand with
          | some place => return .step true (if isMark "++" after then .add else .subtract) place
          | none => throw (invalidTarget after.position)
        else return operand

/-- An expression with the members and calls behind it. -/
def parseLeft : Nat → Context → Parse Expression
  | 0, _ => throw abruptEnd
  | fuel + 1, context => do
    let token ← peek
    let whole := { context with takesIn := true }
    let calls ← if isWord "super" token || isWord "import" token then
        pure (((← look? 1).map (isMark "(")).getD false)
      else pure false
    let start ← if calls then do
        advance
        advance
        if isWord "super" token then
          modify fun reader => { reader with usesSuperCall := true }
          parseCalls fuel whole (.superCall (← parseArguments fuel whole []))
        else
          let name ← parseAssignment fuel whole
          expectMark ")" "import call"
          parseCalls fuel whole (.importModule name)
      else do
        let member ← parseMember fuel context
        if ← takeMark "(" then parseCalls fuel whole (.call member (← parseArguments fuel whole []))
        else pure member
    if ← seesMark "?." then return .chain (← parseChain fuel whole start) else return start

/-- An expression with the members behind it. -/
def parseMember : Nat → Context → Parse Expression
  | 0, _ => throw abruptEnd
  | fuel + 1, context => do
    let token ← peek
    let whole := { context with takesIn := true }
    let base ← if isWord "new" token then do
        advance
        parseNew fuel whole
      else if isWord "super" token then do
        advance
        modify fun reader => { reader with usesSuper := true }
        let mark ← next
        if isMark "." mark then do
          let name ← next
          match name.token with
          | .word name => pure (.superMember (.text (Text.units name)))
          | .privateName _ => throw (syntaxErrorAt "unexpected private identifier" name.position)
          | _ => throw (unexpected name "expected super property")
        else if isMark "[" mark then do
          let key ← parseExpression fuel whole
          expectMark "]" "super property"
          pure (.superMember key)
        else throw (unexpected mark "expected super property")
      else if isWord "import" token then do
        advance
        expectMark "." "import.meta"
        let property ← next
        if isWord "meta" property then
          throw (syntaxErrorAt "invalid \x60import.meta\x60 expression outside a module" token.position)
        else throw (expectedToken "property \x60meta\x60" property "import.meta")
      else parsePrimary fuel context
    parseMembers fuel whole base

/-- The members behind an expression. -/
def parseMembers : Nat → Context → Expression → Parse Expression
  | 0, _, _ => throw abruptEnd
  | fuel + 1, context, base => do
    match ← look? 0 with
    | none => return base
    | some token =>
      match token.token with
      | .mark "." =>
        advance
        parseMembers fuel context (.member base (← parseMemberName context "member expression"))
      | .mark "[" =>
        advance
        let key ← parseExpression fuel context
        expectMark "]" "member expression"
        parseMembers fuel context (.member base key)
      | .template _ _ =>
        let (texts, values) ← parseTemplate fuel context token.position true
        parseMembers fuel context (.tagged base texts values)
      | _ => return base

/-- The members and calls behind a call. -/
def parseCalls : Nat → Context → Expression → Parse Expression
  | 0, _, _ => throw abruptEnd
  | fuel + 1, context, base => do
    match ← look? 0 with
    | none => return base
    | some token =>
      match token.token with
      | .mark "." =>
        advance
        parseCalls fuel context (.member base (← parseMemberName context "call expression"))
      | .mark "[" =>
        advance
        let key ← parseExpression fuel context
        expectMark "]" "call expression"
        parseCalls fuel context (.member base key)
      | .mark "(" =>
        advance
        parseCalls fuel context (.call base (← parseArguments fuel context []))
      | .template _ _ =>
        let (texts, values) ← parseTemplate fuel context token.position true
        parseCalls fuel context (.tagged base texts values)
      | _ => return base

/-- Members and calls that are given up where a value is missing. -/
def parseChain : Nat → Context → Expression → Parse Expression
  | 0, _, _ => throw abruptEnd
  | fuel + 1, context, base => do
    let place := "optional chain"
    let noTemplate (token : PlacedToken) : NativeError :=
      syntaxErrorAt "Invalid tagged template on optional chain" token.position
    match ← look? 0 with
    | none => return base
    | some token =>
      match token.token with
      | .mark "?." =>
        advance
        let after ← peek
        match after.token with
        | .mark "(" =>
          advance
          parseChain fuel context (.call (.link base) (← parseArguments fuel context []))
        | .mark "[" =>
          advance
          let key ← parseExpression fuel context
          expectMark "]" place
          parseChain fuel context (.member (.link base) key)
        | .template _ _ => throw (noTemplate after)
        | _ => parseChain fuel context (.member (.link base) (← parseMemberName context place))
      | .mark "." =>
        advance
        parseChain fuel context (.member base (← parseMemberName context place))
      | .mark "[" =>
        advance
        let key ← parseExpression fuel context
        expectMark "]" place
        parseChain fuel context (.member base key)
      | .mark "(" =>
        advance
        parseChain fuel context (.call base (← parseArguments fuel context []))
      | .template _ _ => throw (noTemplate token)
      | _ => return base

/-- The arguments of a call after the opening parenthesis; `before` holds those so far,
the last first. -/
def parseArguments : Nat → Context → List Expression → Parse (List Expression)
  | 0, _, _ => throw abruptEnd
  | fuel + 1, context, before => do
    let token ← peek
    if isMark ")" token then
      advance
      return before.reverse
    else
      if isMark "," token then
        if before.isEmpty then throw (expectedToken "expression" token "call")
        advance
      else if !before.isEmpty then throw (expectedEither "," "\x7d" token "argument list")
      if isMark "," token then
        if ← takeMark ")" then return before.reverse
      if ← takeMark "..." then
        parseArguments fuel context (.spread (← parseAssignment fuel context) :: before)
      else parseArguments fuel context ((← parseAssignment fuel context) :: before)

/-- What stands behind `new`: a member without call, then arguments. -/
def parseNew : Nat → Context → Parse Expression
  | 0, _ => throw abruptEnd
  | fuel + 1, context => do
    if ← takeMark "." then
      let name ← next
      if !isWord "target" name then throw (expectedToken "target" name "new.target")
      modify fun reader => { reader with usesTarget := true }
      return .newTarget
    else
      let callee ← parseMember fuel context
      if ← takeMark "(" then return .construct callee (← parseArguments fuel context [])
      else return .construct callee []

/-- The parts of a template from the one that comes next on. Without a tag every part
has to make sense. -/
def parseTemplate : Nat → Context → Position → Bool →
    Parse (List (Option (List UInt16) × List UInt16) × List Expression)
  | 0, _, _, _ => throw abruptEnd
  | fuel + 1, context, start, isTagged => do
    let token ← next
    let part? := match token.token with
      | .template written isLast => some (written, isLast)
      | .templateRest written isLast => some (written, isLast)
      | _ => none
    match part? with
    | some (written, isLast) =>
      let spelling := Text.ofUnits written
      let part ← match Lexeme.cook (spelling.length + 1) start [] spelling.toList with
        | .ok units => pure (some units, written)
        | .error error => if isTagged then pure (none, written) else throw error
      if isLast then return ([part], [])
      else
        let value ← parseExpression fuel context
        let after ← peek
        match after.token with
        | .templateRest _ _ =>
          let (parts, values) ← parseTemplate fuel context start isTagged
          return (part :: parts, value :: values)
        | _ => throw (expectedToken "\x7d" after "template literal")
    | none => throw abruptEnd

def parsePrimary : Nat → Context → Parse Expression
  | 0, _ => throw abruptEnd
  | fuel + 1, context => do
    let whole := { context with takesIn := true }
    let token ← peek
    match token.token with
    | .number value =>
      advance
      return .number value
    | .bigint value =>
      advance
      return .bigint value
    | .text content =>
      advance
      return .text content
    | .given value =>
      advance
      return value
    | .template _ _ =>
      let (parts, values) ← parseTemplate fuel whole token.position false
      return .template (parts.map fun part => part.1.getD []) values
    | .pattern body flags =>
      advance
      return .pattern body flags
    | .word name => parseWord fuel whole token name
    | .mark "(" =>
      advance
      parseParenthesized fuel whole
    | .mark "[" =>
      advance
      return .array (← parseItems fuel whole false [])
    | .mark "\x7b" =>
      advance
      return .object (← parseEntries fuel whole none false [])
    | .mark "/" => parseLatePattern fuel token
    | .mark "/=" => parseLatePattern fuel token
    | _ => throw (unexpected token "primary expression")

/-- A pattern whose slash has been taken for a division. -/
def parseLatePattern : Nat → PlacedToken → Parse Expression
  | 0, _ => throw abruptEnd
  | _ + 1, token => do
    modify fun reader => { reader with tokens := Lexeme.rereadPattern token }
    let pattern ← next
    match pattern.token with
    | .pattern body flags => return .pattern body flags
    | _ => throw (unexpected token "primary expression")

/-- An expression that starts with a word. -/
def parseWord : Nat → Context → PlacedToken → String → Parse Expression
  | 0, _, _, _ => throw abruptEnd
  | fuel + 1, context, token, name => do
    match name with
    | "this" =>
      advance
      return .this
    | "null" =>
      advance
      return .null
    | "true" =>
      advance
      return .bool true
    | "false" =>
      advance
      return .bool false
    | "function" =>
      advance
      parseFunctionExpression fuel context false
    | "class" =>
      advance
      let hasName := isNameOr ["await", "yield"] (← peek)
      let name ← if hasName then parseName { context with isStrict := true } else pure ""
      return .classDefinition (← parseClass fuel context name)
    | "async" =>
      let after ← lookAhead 1
      if isWord "function" after && !after.startsLine then
        advance
        advance
        parseFunctionExpression fuel context true
      else return .identifier (← parseName context)
    | _ =>
      if isReserved name then throw (unexpected token "primary expression")
      return .identifier (← parseName context)

/-- A function in an expression behind its word. -/
def parseFunctionExpression : Nat → Context → Bool → Parse Expression
  | 0, _, _ => throw abruptEnd
  | fuel + 1, context, isAsync => do
    let isGenerator := isMark "*" (← peek)
    if isGenerator then advance
    let manner := { Manner.plain with isAsync, isGenerator }
    let hasName := isNameOr ["async", "await", "of", "yield"] (← peek)
    let name ← if hasName then parseName { context with isAsync, isGenerator } else pure ""
    return .closure (← parseFunction fuel context { manner with knowsName := hasName } name
      (functionPlace manner "expression"))

/-- A parenthesis after its opening mark: an expression, or the parameters of an arrow
function. -/
def parseParenthesized : Nat → Context → Parse Expression
  | 0, _ => throw abruptEnd
  | fuel + 1, context => do
    let place := "CoverParenthesizedExpressionAndArrowParameterList"
    let start ← peek
    let arrow (parameters : List Target) : Parse Expression :=
      parseArrow fuel context .arrow parameters "arrow function" start.position
    let seesArrow : Parse Bool := do
      match ← look? 0 with
      | some token => return isMark "=>" token && !token.startsLine
      | none => return false
    if isMark ")" start then
      advance
      if ← seesArrow then arrow []
      else throw (unexpected start "empty parenthesized expression")
    else if isMark "..." start then
      advance
      let target ← parseBinding fuel context
      expectMark ")" place
      if ← seesArrow then arrow [.rest target]
      else
        throw (syntaxErrorAt "unexpected token ')', parenthesized spread expressions" start.position)
    else
      let inner ← parseExpression fuel context
      let after ← next
      let trailing := isMark "," after
      let rest ← if trailing then do
          let last ← next
          if isMark "..." last then
            let target ← parseBinding fuel context
            expectMark ")" place
            pure [Target.rest target]
          else if !isMark ")" last then throw (expectedEither ")" "..." last place)
          else pure []
        else if !isMark ")" after then throw (expectedEither ")" "," after place)
        else pure []
      if ← seesArrow then
        match parametersOf start inner with
        | .ok (parameters, count) =>
          settle count
          arrow (parameters ++ rest)
        | .error error => throw error
      else if !rest.isEmpty then
        throw (syntaxErrorAt
          "unexpected token ')', multiple expressions in parenthesized expression"
          start.position)
      else if trailing then throw (unexpected after "trailing comma in parenthesized expression")
      else return .parenthesized inner

/-- The items of an array literal after the opening bracket; `full` says whether an item
has to be followed by a comma first. -/
def parseItems : Nat → Context → Bool → List Expression → Parse (List Expression)
  | 0, _, _, _ => throw abruptEnd
  | fuel + 1, context, full, before => do
    let token ← peek
    if isMark "]" token then
      advance
      return before.reverse
    else if isMark "," token then
      advance
      parseItems fuel context false (if full then before else .hole :: before)
    else if full then throw (unexpected token "expected comma or end of array")
    else if ← takeMark "..." then
      parseItems fuel context true (.spread (← parseAssignment fuel context) :: before)
    else parseItems fuel context true ((← parseAssignment fuel context) :: before)

/-- The entries of an object literal after the opening brace. `again` is where the
parent is given a second time, and `hasParent` says whether it is given. -/
def parseEntries : Nat → Context → Option Position → Bool → List Entry → Parse (List Entry)
  | 0, _, _, _, _ => throw abruptEnd
  | fuel + 1, context, again, hasParent, before => do
    let token ← peek
    let close (again : Option Position) (entries : List Entry) : Parse (List Entry) := do
      advance
      match again with
      | none => return entries.reverse
      | some position =>
        if ← seesMark "=" then return entries.reverse
        else
          throw (syntaxErrorAt "Duplicate __proto__ fields are not allowed in object literals." position)
    if isMark "\x7d" token then close again before
    else
      let entry ← parseEntry fuel context
      let isParent := match entry with
        | .mk _ role _ _ => role == .parent
      let again := if isParent && hasParent && again.isNone then some token.position else again
      let after ← peek
      if isMark "\x7d" after then close again (entry :: before)
      else if isMark "," after then
        advance
        parseEntries fuel context again (hasParent || isParent) (entry :: before)
      else throw (expectedEither "," "\x7d" after "object literal")

/-- An entry of an object literal. A name alone stands for its value, and the name
`__proto__` for what the object inherits from. -/
def parseEntry : Nat → Context → Parse Entry
  | 0, _ => throw abruptEnd
  | fuel + 1, context => do
    let token ← peek
    let after ← lookAhead 1
    if isMark "\x7d" after || isMark "," after then
      let name ← parseName context
      return .mk false .value (.text (Text.units name)) (.identifier name)
    else if isMark "=" after then
      let name ← parseName context
      advance
      let target := Target.place (.identifier name)
      let value ← parseAssignment fuel context
      modify fun reader => { reader with pending := reader.pending + 1 }
      return .mk false .pending (.text (Text.units name)) (.assign target (nameFor target value))
    else if ← takeMark "..." then
      return .mk false .copied (.text []) (← parseAssignment fuel context)
    else
      let isAsync := isWord "async" token && !isMark "(" after && !isMark ":" after
      if isAsync then
        advance
        expectOnLine "Async object methods"
      let isGenerator ← takeMark "*"
      let start ← peek
      let (key, isLiteral) ← parseKey fuel context
      let hasValue ← if isAsync || isGenerator then pure false else takeMark ":"
      if hasValue then
        let value ← parseAssignment fuel context
        if isLiteral && key matches .text _ then
          let name := spellingOf key
          if name = "__proto__" then return .mk false .parent key value
          else return .mk false .value key (nameFunction name value)
        else return .mk false .value key value
      else
        let manner := { Manner.plain with isMethod := true, isAsync, isGenerator }
        parseMethod fuel context false manner key start isLiteral

/-- A method, or an accessor where its key is `get` or `set` and another key follows. -/
def parseMethod : Nat → Context → Bool → Manner → Expression → PlacedToken → Bool → Parse Entry
  | 0, _, _, _, _, _, _ => throw abruptEnd
  | fuel + 1, context, ofClass, manner, key, start, isLiteral => do
    let isPlain := isLiteral && !manner.isAsync && !manner.isGenerator
    let isAccessor := isPlain && (isWord "get" start || isWord "set" start) && !(← seesMark "(")
    let manner := { manner with isMethod := true }
    if isAccessor then
      let place := spellingOf key ++ " method definition"
      let (name, _) ← parseKey fuel context
      let procedure ← parseFunctionOf fuel context manner "" place true false
        (some (isWord "set" start))
      return .mk ofClass (if isWord "get" start then .getter else .setter) name (.closure procedure)
    else
      let procedure ← parseFunctionOf fuel context manner "" (methodPlace manner) true false none
      return .mk ofClass .method key (.closure procedure)

/-- The key of an entry, and whether it is a name that is written out. -/
def parseKey : Nat → Context → Parse (Expression × Bool)
  | 0, _ => throw abruptEnd
  | fuel + 1, context => do
    let token ← peek
    match token.token with
    | .word name =>
      advance
      return (.text (Text.units name), true)
    | .text content =>
      advance
      return (.text content, true)
    | .number value =>
      advance
      return (.text (Text.units (textOfNumber value)), false)
    | .bigint value =>
      advance
      return (.text (Text.units (toString value)), false)
    | .privateName name =>
      if context.inClass then
        advance
        return (.secret name, false)
      else throw (expectedToken "property name" token "property name")
    | .mark "[" =>
      advance
      let key ← parseAssignment fuel { context with takesIn := true }
      expectMark "]" "expected token ']'"
      return (key, false)
    | _ => throw (expectedToken "property name" token "property name")

def parseFunction : Nat → Context → Manner → String → String → Parse Procedure
  | 0, _, _, _, _ => throw abruptEnd
  | fuel + 1, context, manner, name, place =>
    parseFunctionOf fuel context manner name place false false none

/-- A function from its parameters on. An accessor has no parameters or one. -/
def parseFunctionOf : Nat → Context → Manner → String → String → Bool → Bool → Option Bool →
    Parse Procedure
  | 0, _, _, _, _, _, _, _ => throw abruptEnd
  | fuel + 1, context, manner, name, place, mayUse, mayCall, accessor => do
    let mark ← peek
    let start := Lexeme.shift mark.position 1
    parseBounded start mayUse mayCall do
      expectMark "(" place
      let inner := { context.ofFunction manner with isStrict := context.isStrict }
      let parameters ← match accessor with
        | some false => pure []
        | some true => do pure [← parseParameter fuel inner]
        | none => parseParameters fuel inner none []
      expectMark ")" place
      expectMark "\x7b" place
      let (body, isStrict) ← parseBody fuel context manner place
      checkParameters start parameters body
      return .mk name { manner with isStrict } parameters body

/-- The parameters of a function before the closing parenthesis. `start` is where the
first one stands. -/
def parseParameters : Nat → Context → Option Position → List Target → Parse (List Target)
  | 0, _, _, _ => throw abruptEnd
  | fuel + 1, context, start, before => do
    let token ← peek
    let start := start.getD token.position
    let finish (parameters : List Target) : Parse (List Target) := do
      if !areSimple parameters && hasDuplicates (namesOfAll parameters) then
        throw (syntaxErrorAt "Duplicate parameter name not allowed in this context" start)
      return parameters
    if isMark ")" token then finish before.reverse
    else if isMark "..." token then
      advance
      let target ← parseBinding fuel context
      let after ← peek
      if isMark ")" after then finish (.rest target :: before).reverse
      else throw (unexpected after "rest parameter must be the last formal parameter")
    else
      let parameter ← parseParameter fuel context
      if isMark ")" (← peek) then finish (parameter :: before).reverse
      else
        expectMark "," "parameter list"
        parseParameters fuel context (some start) (parameter :: before)

/-- A target with names alone and, maybe, a value that it takes instead of undefined. -/
def parseParameter : Nat → Context → Parse Target
  | 0, _ => throw abruptEnd
  | fuel + 1, context => do
    let target ← parseBinding fuel context
    let _ ← peek
    if ← takeMark "=" then
      return .default target
        (nameFor target (← parseAssignment fuel { context with takesIn := true }))
    else return target

/-- A target with names alone. -/
def parseBinding : Nat → Context → Parse Target
  | 0, _ => throw abruptEnd
  | fuel + 1, context => do
    let token ← peek
    if isMark "\x7b" token then
      advance
      return .record (← parseFields fuel context [])
    else if isMark "[" token then
      advance
      return .list (← parseListTargets fuel context [])
    else return .place (.identifier (← parseName context))

/-- The fields of a target that takes an object apart, after the opening brace. -/
def parseFields : Nat → Context → List Target → Parse (List Target)
  | 0, _, _ => throw abruptEnd
  | fuel + 1, context, before => do
    let place := "object binding pattern"
    let token ← peek
    if isMark "\x7d" token then
      advance
      return before.reverse
    else if isMark "..." token then
      advance
      let name ← parseName context
      expectMark "\x7d" place
      return (.rest (.place (.identifier name)) :: before).reverse
    else
      let after ← lookAhead 1
      let isKey := match token.token with
        | .word _ => isMark ":" after
        | .text _ => true
        | .number _ => true
        | .bigint _ => true
        | _ => isMark "[" token
      let field ← if isKey then do
          let (key, _) ← parseKey fuel context
          expectMark ":" place
          pure (Target.field key (← parseParameter fuel context))
        else do
          let name ← parseName context
          let target := Target.place (.identifier name)
          let _ ← peek
          let whole ← if ← takeMark "=" then do
              let value ← parseAssignment fuel { context with takesIn := true }
              pure (Target.default target (nameFor target value))
            else pure target
          pure (.field (.text (Text.units name)) whole)
      let finish ← next
      if isMark "\x7d" finish then return (field :: before).reverse
      else if isMark "," finish then parseFields fuel context (field :: before)
      else throw (expectedEither "," "\x7d" finish place)

/-- The items of a target that takes a list apart, after the opening bracket. -/
def parseListTargets : Nat → Context → List Target → Parse (List Target)
  | 0, _, _ => throw abruptEnd
  | fuel + 1, context, before => do
    let place := "array binding pattern"
    let token ← peek
    if isMark "]" token then
      advance
      return before.reverse
    else if isMark "," token then
      advance
      parseListTargets fuel context (.gap :: before)
    else if isMark "..." token then
      advance
      let target ← parseBinding fuel context
      expectMark "]" place
      return (.rest target :: before).reverse
    else
      let target ← parseParameter fuel context
      let after ← next
      if isMark "]" after then return (target :: before).reverse
      else if isMark "," after then parseListTargets fuel context (target :: before)
      else throw (expectedEither "," "]" after place)

/-- A class behind its name. -/
def parseClass : Nat → Context → String → Parse Blueprint
  | 0, _, _ => throw abruptEnd
  | fuel + 1, context, name => do
    let inner := { context with isStrict := true, inClass := true, takesIn := true }
    let hasParent ← takeWord "extends"
    let parent ← if hasParent then parseLeft fuel { context with isStrict := true } else pure .null
    expectMark "\x7b" "class tail"
    let (maker, members) ← parseMembersOfClass fuel inner hasParent none []
    let manner := { Manner.plain with isStrict := true }
    let usual := if hasParent then forwardingMaker name manner else .mk name manner [] []
    let maker := (maker.getD usual).named name
    return if hasParent then .derived name parent maker members else .base name maker members

/-- The members of a class up to its closing brace, with its constructor. -/
def parseMembersOfClass : Nat → Context → Bool → Option Procedure → List Entry →
    Parse (Option Procedure × List Entry)
  | 0, _, _, _, _ => throw abruptEnd
  | fuel + 1, context, hasParent, maker, before => do
    let token ← peek
    if isMark "\x7d" token then
      advance
      return (maker, before.reverse)
    else if isMark ";" token then
      advance
      parseMembersOfClass fuel context hasParent maker before
    else
      let after ← lookAhead 1
      let standsAlone (token : PlacedToken) : Bool :=
        isMark "(" token || isMark "=" token || isMark ";" token || isMark "\x7d" token
      let ofClass := isWord "static" token && !standsAlone after
      if ofClass then advance
      if ofClass && (← seesMark "\x7b") then
        advance
        let manner := { Manner.plain with isMethod := true, isStrict := true }
        let (body, _) ← parseBounded token.position true false
          (parseBody fuel context manner "class tail")
        parseMembersOfClass fuel context hasParent maker
          (.mk true .block .null (.closure (.mk "" manner [] body)) :: before)
      else
        let first ← peek
        let second ← lookAhead 1
        let isAsync := isWord "async" first && !standsAlone second && !second.startsLine
        if isAsync then advance
        let isGenerator ← takeMark "*"
        let start ← peek
        let (key, isLiteral) ← parseKey fuel context
        let manner := { Manner.plain with isMethod := true, isAsync, isGenerator, isStrict := true }
        let isAccessor := isLiteral && (isWord "get" start || isWord "set" start)
          && !(((← look? 0).map fun token => standsAlone token || token.startsLine).getD true)
        if isLiteral && !ofClass && spellingOf key = "constructor" && (← seesMark "(") then
          let made := { Manner.plain with isStrict := true }
          let procedure ← parseFunctionOf fuel context made "" "class constructor" true hasParent none
          parseMembersOfClass fuel context hasParent (some procedure) before
        else if isAccessor || isAsync || isGenerator || (← seesMark "(") then
          let entry ← parseMethod fuel context ofClass manner key start isLiteral
          parseMembersOfClass fuel context hasParent maker (entry :: before)
        else
          let value ← if ← takeMark "=" then
              parseBounded start.position true false (parseAssignment fuel context)
            else pure .undefined
          parseEnd "expected semicolon"
          let named := if isLiteral then nameFunction (spellingOf key) value else value
          parseMembersOfClass fuel context hasParent maker (.mk ofClass .value key named :: before)

/-- Statements up to one of these marks or words, or up to the end. -/
def parseStatements : Nat → Context → List String → List Command → Parse (List Command)
  | 0, _, _, _ => throw abruptEnd
  | fuel + 1, context, stops, before => do
    match ← look? 0 with
    | none => return before.reverse
    | some token =>
      if stops.any fun stop => isMark stop token || isWord stop token then return before.reverse
      else
        let commands ← parseItem fuel context
        parseStatements fuel context stops (commands.reverse ++ before)

/-- The statements of a block behind its opening brace. -/
def parseBlock : Nat → Context → String → Parse (List Command)
  | 0, _, _ => throw abruptEnd
  | fuel + 1, context, place => do
    let start ← peek
    expectMark "\x7b" place
    let commands ← parseStatements fuel context ["\x7d"] []
    expectMark "\x7d" place
    if declaresTwice commands (variablesOf commands) then
      throw (syntaxErrorAt "lexical name declared multiple times" (Lexeme.shift start.position 1))
    return commands

/-- A declaration or a statement; a declaration of several variables counts as one. -/
def parseItem : Nat → Context → Parse (List Command)
  | 0, _ => throw abruptEnd
  | fuel + 1, context => do
    let token ← peek
    match token.token with
    | .word "function" =>
      advance
      return [.define (← parseDeclaredFunction fuel context false)]
    | .word "async" =>
      let after ← lookAhead 1
      if isWord "function" after && !after.startsLine then
        advance
        advance
        return [.define (← parseDeclaredFunction fuel context true)]
      else return [← parseStatement fuel context]
    | .word "class" =>
      advance
      let nameToken ← peek
      if !isNameOr ["await", "yield"] nameToken then
        throw (unexpected nameToken "expected class identifier")
      let name ← parseName { context with isStrict := true }
      return [.defineClass (← parseClass fuel context name)]
    | .word "const" =>
      advance
      parseLexical fuel context .constant token
    | .word "let" =>
      if declaresBehind (← look? 1) then
        advance
        parseLexical fuel context .local token
      else return [← parseStatement fuel context]
    | .word "var" =>
      advance
      let commands ← parseVariables fuel context []
      parseEnd "variable statement"
      return commands
    | _ => return [← parseStatement fuel context]

/-- A function that is declared, behind its word. -/
def parseDeclaredFunction : Nat → Context → Bool → Parse Procedure
  | 0, _, _ => throw abruptEnd
  | fuel + 1, context, isAsync => do
    let isGenerator := isMark "*" (← peek)
    if isGenerator then advance
    let manner := { Manner.plain with isAsync, isGenerator }
    let place := functionPlace manner "declaration"
    let nameToken ← peek
    if isMark "(" nameToken then throw (unexpected nameToken place)
    let name ← parseName context
    parseFunction fuel context manner name place

/-- The names of a block with their values, up to the end of the statement. -/
def parseLexical : Nat → Context → Binding → PlacedToken → Parse (List Command)
  | 0, _, _, _ => throw abruptEnd
  | fuel + 1, context, binding, start => do
    let commands ← parseLexicals fuel context binding false []
    parseEnd "lexical declaration"
    checkLexicals start commands
    return commands

/-- Names of a block with values. In the head of a loop they need none. -/
def parseLexicals : Nat → Context → Binding → Bool → List Command → Parse (List Command)
  | 0, _, _, _, _ => throw abruptEnd
  | fuel + 1, context, binding, inHead, before => do
    let target ← parseBinding fuel context
    let value? ← if ← takeMark "=" then do pure (some (← parseAssignment fuel context))
      else pure none
    let isName := target matches .place _
    if value?.isNone && !inHead then
      if binding == .constant then
        let token ← next
        throw (expectedToken "=" token "const declaration")
      else if !isName then
        let token ← next
        throw (expectedToken "=" token "initializer")
    let command := Command.declare binding target (nameFor target (value?.getD .undefined))
    let after ← look? 0
    if (after.map (isMark ",")).getD false then
      advance
      parseLexicals fuel context binding inHead (command :: before)
    else
      let isRange :=
        inHead && ((after.map fun token => isWord "of" token || isWord "in" token).getD false)
      match after with
      | some token =>
        if !isRange && !endsBefore after then
          throw (expectedEither ";" "line terminator" token "lexical declaration binding list")
      | none => pure ()
      return (command :: before).reverse

/-- The variables of a declaration. -/
def parseVariables : Nat → Context → List Command → Parse (List Command)
  | 0, _, _ => throw abruptEnd
  | fuel + 1, context, before => do
    let target ← parseBinding fuel context
    let command ← if ← takeMark "=" then do
        pure (Command.declare .variable target (nameFor target (← parseAssignment fuel context)))
      else match target with
        | .place (.identifier name) => pure (.mention name)
        | _ => do
          let after ← look? 0
          if !context.takesIn
            && ((after.map fun token => isWord "of" token || isWord "in" token).getD false) then
            pure (.declare .variable target .undefined)
          else throw (expectedToken "=" (← next) "initializer")
    if ← takeMark "," then parseVariables fuel context (command :: before)
    else return (command :: before).reverse

def parseStatement : Nat → Context → Parse Command
  | 0, _ => throw abruptEnd
  | fuel + 1, context => do
    let token ← peek
    match token.token with
    | .mark "\x7b" => return .block (← parseBlock fuel context "block")
    | .mark ";" =>
      advance
      return .block []
    | .word name =>
      match name with
      | "var" =>
        advance
        let commands ← parseVariables fuel context []
        parseEnd "variable statement"
        return .block commands
      | "if" =>
        advance
        parseChoice fuel context
      | "while" =>
        advance
        expectMark "(" "while statement"
        let condition ← parseExpression fuel context
        expectMark ")" "while statement"
        return .whileLoop condition [← parseStatement fuel { context with inLoop := true }]
      | "do" =>
        advance
        let body ← parseStatement fuel { context with inLoop := true }
        expectWord "while" "do while statement"
        expectMark "(" "do while statement"
        let condition ← parseExpression fuel context
        expectMark ")" "do while statement"
        let _ ← takeMark ";"
        return .doWhileLoop [body] condition
      | "for" =>
        advance
        parseFor fuel context
      | "switch" =>
        advance
        parseSwitch fuel context
      | "try" =>
        advance
        parseTry fuel context
      | "throw" =>
        advance
        expectOnLine "throw statement"
        let value ← parseExpression fuel context
        parseEnd "throw statement"
        return .throws value
      | "return" =>
        if !context.isFunction then throw (unexpected token "statement")
        advance
        let value ← if endsBefore (← look? 0) then pure .undefined else parseExpression fuel context
        parseEnd "return statement"
        return .returns value
      | "break" =>
        advance
        let label ← parseLabel? context
        parseEnd "break statement"
        checkBreak context label
        return .breaks label
      | "continue" =>
        advance
        let label ← parseLabel? context
        parseEnd "continue statement"
        checkContinue context label
        return .continues label
      | "with" =>
        advance
        expectMark "(" "with statement"
        let object ← parseExpression fuel context
        expectMark ")" "with statement"
        return .inside object [← parseStatement fuel context]
      | "debugger" =>
        advance
        parseEnd "debugger statement"
        return .block []
      | _ =>
        let isLabel ← if isNameOr ["await", "yield"] token then
            pure (((← look? 1).map (isMark ":")).getD false)
          else pure false
        if isLabel then parseLabelled fuel context else parseSimple fuel context token
    | _ => parseSimple fuel context token

/-- A statement that is an expression. -/
def parseSimple : Nat → Context → PlacedToken → Parse Command
  | 0, _, _ => throw abruptEnd
  | fuel + 1, context, token => do
    let refused : NativeError := syntaxErrorAt "expected statement" token.position
    if isWord "function" token || isWord "class" token then throw refused
    if isWord "async" token then
      let after ← lookAhead 1
      if isWord "function" after && !after.startsLine then throw refused
    if isWord "let" token && ((← look? 1).map (isMark "[")).getD false then throw refused
    let expression ← parseExpression fuel context
    parseEnd "expression statement"
    return .evaluate expression

/-- The statement that an `if` or an `else` is for. -/
def parseBranch : Nat → Context → Parse (List Command)
  | 0, _ => throw abruptEnd
  | fuel + 1, context => do
    if !context.isStrict && isWord "function" (← peek) then
      advance
      return [.block [.define (← parseDeclaredFunction fuel context false)]]
    else return [← parseStatement fuel context]

def parseChoice : Nat → Context → Parse Command
  | 0, _ => throw abruptEnd
  | fuel + 1, context => do
    expectMark "(" "if statement"
    let condition ← parseExpression fuel context
    expectMark ")" "if statement"
    let yes ← parseBranch fuel context
    if ← takeWord "else" then return .choose condition yes (← parseBranch fuel context)
    else return .choose condition yes []

/-- A loop behind the word `for`. -/
def parseFor : Nat → Context → Parse Command
  | 0, _ => throw abruptEnd
  | fuel + 1, context => do
    let place := "for statement"
    let token ← peek
    let waits := isWord "await" token
    if waits then
      if !context.isAsync then
        throw (unexpected token
          "for await...of is only valid in async functions or async generators")
      advance
    expectMark "(" place
    let start ← peek
    let head := { context with takesIn := false }
    if isWord "var" start then
      advance
      parseForRest fuel context waits start.position (some .variable)
        (← parseVariables fuel head [])
    else if isWord "const" start || (isWord "let" start && declaresBehind (← look? 1)) then
      advance
      let binding := if isWord "const" start then Binding.constant else .local
      let commands ← parseLexicals fuel head binding true []
      checkLexicals start commands
      parseForRest fuel context waits start.position (some binding) commands
    else if isMark ";" start then parseForRest fuel context waits start.position none []
    else
      let expression ← parseExpression fuel head
      parseForRest fuel context waits start.position none [.evaluate expression]

/-- A loop behind its first part. -/
def parseForRest : Nat → Context → Bool → Position → Option Binding → List Command → Parse Command
  | 0, _, _, _, _, _ => throw abruptEnd
  | fuel + 1, context, waits, start, binding, commands => do
    let place := "for statement"
    let inner := { context with inLoop := true }
    let token ← peek
    if !commands.isEmpty && (isWord "of" token || isWord "in" token) then
      match rangeTarget? commands with
      | none => throw (syntaxErrorAt "invalid left-hand side in for-loop" start)
      | some (target, count) =>
        settle count
        advance
        let byKeys := isWord "in" token
        let subject ← if byKeys then parseExpression fuel context else parseAssignment fuel context
        expectMark ")" "for in/of statement"
        let range := if byKeys then Range.keys else if waits then .awaited else .items
        return .forEach range binding target subject [← parseStatement fuel inner]
    else
      expectMark ";" place
      let condition ← if ← seesMark ";" then pure (.bool true) else parseExpression fuel context
      expectMark ";" place
      let step ← if ← seesMark ")" then pure .undefined else parseExpression fuel context
      expectMark ")" place
      return .forLoop commands condition step [← parseStatement fuel inner]

def parseSwitch : Nat → Context → Parse Command
  | 0, _ => throw abruptEnd
  | fuel + 1, context => do
    expectMark "(" "switch statement"
    let value ← parseExpression fuel context
    expectMark ")" "switch statement"
    expectMark "\x7b" "switch case block"
    return .select value (← parseClauses fuel { context with inChoice := true } [])

def parseClauses : Nat → Context → List Clause → Parse (List Clause)
  | 0, _, _ => throw abruptEnd
  | fuel + 1, context, before => do
    let stops := ["case", "default", "\x7d"]
    let token ← next
    if isMark "\x7d" token then return before.reverse
    else if isWord "case" token then
      let value ← parseExpression fuel context
      expectMark ":" "switch case block"
      let body ← parseStatements fuel context stops []
      parseClauses fuel context (.case value body :: before)
    else if isWord "default" token then
      expectMark ":" "switch default case block"
      let body ← parseStatements fuel context stops []
      parseClauses fuel context (.otherwise body :: before)
    else throw (expected "one of 'case', 'default' or '\x7d'" token "switch case block")

def parseTry : Nat → Context → Parse Command
  | 0, _ => throw abruptEnd
  | fuel + 1, context => do
    let body ← parseBlock fuel context "block"
    let token ← peek
    if isWord "catch" token then
      advance
      let target ← if ← takeMark "(" then do
          let target ← parseBinding fuel context
          expectMark ")" "catch in try statement"
          pure target
        else pure .gap
      let handler ← parseBlock fuel context "block"
      let guarded := Command.attempt body target handler
      if ← takeWord "finally" then return .finally [guarded] (← parseBlock fuel context "block")
      else return guarded
    else if isWord "finally" token then
      advance
      return .finally body (← parseBlock fuel context "block")
    else throw (expectedEither "catch" "finally" token "try statement")

def parseLabelled : Nat → Context → Parse Command
  | 0, _ => throw abruptEnd
  | fuel + 1, context => do
    let label ← parseName context
    expectMark ":" "Labelled Statement"
    if (context.labels.lookup label).isSome then noteFault ("duplicate label: " ++ label)
    let inner := { context with labels := (label, startsLoop (← get).tokens) :: context.labels }
    if !context.isStrict && isWord "function" (← peek) then
      advance
      return .labelled label [.define (← parseDeclaredFunction fuel context false)]
    else return .labelled label [← parseStatement fuel inner]

end

/-- The statements of tokens that a text of so many characters has. -/
def parseScript (size : Nat) (tokens : List PlacedToken) : Except NativeError (List Command) :=
  let script : Parse (List Command) := do
    let context := { Context.script with isStrict := startsStrict tokens }
    let commands ← parseStatements (16 * size + 64) context [] []
    let reader ← get
    if reader.usesSuper || reader.usesSuperCall then throw (lateFault "invalid super usage")
    if reader.usesTarget then throw (lateFault "invalid new.target usage")
    if let some fault := reader.labelFault then throw (lateFault fault)
    if 0 < reader.pending then throw (lateFault "invalid object literal in script statement list")
    if clashes commands then throw (lateFault "lexical name declared multiple times")
    return commands
  (script.run (.ofTokens tokens)).map (·.1)

/-- The statements of a text whose first line has this number. -/
def parse (firstLine : Nat) (text : String) : Except NativeError (List Command) :=
  parseScript text.length (tokens firstLine text)

/-- The statements of a text in which the last number stands for an expression. -/
def parseWith (text : String) (value : Expression) : Except NativeError (List Command) :=
  let replace : List PlacedToken → List PlacedToken
    | token :: rest =>
      match token.token with
      | .number _ => { token with token := .given value } :: rest
      | _ => token :: rest
    | [] => []
  let input := (tokens 1 text).reverse
  let (behind, before) := input.span fun token => !(token.token matches .number _)
  parseScript text.length ((behind ++ replace before).reverse)

end Source

/-- The expression that a whole text spells. -/
def Expression.parse? (text : String) : Option Expression :=
  let input := tokens 1 text
  match (Source.parseExpression (16 * text.length + 64) .script).run (.ofTokens input) with
  | .ok (expression, reader) => if reader.tokens.isEmpty then some expression else none
  | _ => none

end ServerRender.Script
