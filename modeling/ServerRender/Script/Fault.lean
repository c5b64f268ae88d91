/-!
# Faults that an engine finds itself

A script can be refused before it runs, and an operation of a running script can
fail without a `throw`. Both give an error of a class with a message.
-/

namespace ServerRender.Script

/-- An error of the engine. -/
structure NativeError where
  className : String
  message : String
  deriving DecidableEq, Inhabited

namespace NativeError

def describe (error : NativeError) : String :=
  error.className ++ ": " ++ error.message

def typeError (message : String) : NativeError :=
  ⟨"TypeError", message⟩

def rangeError (message : String) : NativeError :=
  ⟨"RangeError", message⟩

def referenceError (name : String) : NativeError :=
  ⟨"ReferenceError", name ++ " is not defined"⟩

def isSyntax (error : NativeError) : Bool :=
  error.className == "SyntaxError"

def notCallable : NativeError :=
  typeError "not a callable function"

def classCalled : NativeError :=
  typeError "class constructor cannot be invoked without 'new'"

def notConstructor : NativeError :=
  typeError "not a constructor"

/-- The end of a recursion that is too deep; no script can catch it. -/
def tooManyCalls : NativeError :=
  ⟨"RuntimeLimit", "exceeded maximum number of recursive calls"⟩

def notAnObject : NativeError :=
  typeError "cannot convert 'null' or 'undefined' to object"

end NativeError

/-- Where a script has a fault; lines and columns count from one. -/
structure Position where
  line : Nat
  column : Nat
  deriving DecidableEq, Inhabited

def syntaxError (message : String) : NativeError :=
  ⟨"SyntaxError", message⟩

/-- The error of a parse fault. -/
def syntaxErrorAt (message : String) (position : Position) : NativeError :=
  syntaxError
    (message ++ " at line " ++ toString position.line ++ ", col " ++ toString position.column)

inductive FaultKind where
  | varWithoutName
  | functionWithoutName
  | strayCharacter
  | declaredTwice
  | returnOutside
  | strayBrace
  | openBrace
  | openString
  | badPattern
  | badJson
  | badBigint
  /-- No fault but a `throw` of a syntax error. -/
  | thrown
  deriving DecidableEq, Inhabited

/-- A faulty statement, so many lines below and columns right of where its script
starts. -/
structure SourceFault where
  kind : FaultKind
  lines : Nat
  indent : Nat
  deriving DecidableEq, Inhabited

/-- When an engine finds a fault. -/
inductive Discovery where
  /-- When the parser comes to it. -/
  | onTheWay (error : NativeError)
  /-- When the parser comes to the end of the script. -/
  | atTheEnd (error : NativeError)
  /-- After the script is parsed. -/
  | afterwards (error : NativeError)
  /-- When the script runs. -/
  | running

/-- How the engine finds a fault in a script that starts at a line. -/
def SourceFault.discovery (fault : SourceFault) (firstLine : Nat) : Discovery :=
  let place (offset : Nat) : Position := ⟨firstLine + fault.lines, 1 + fault.indent + offset⟩
  match fault.kind with
  | .varWithoutName =>
    .onTheWay (syntaxErrorAt "expected token 'identifier', got '=' in identifier parsing" (place 4))
  | .functionWithoutName =>
    .onTheWay (syntaxErrorAt "unexpected token '(', function declaration" (place 9))
  | .strayCharacter =>
    let spot := place 8
    .onTheWay (syntaxErrorAt
      ("unexpected '@' at line " ++ toString spot.line ++ ", column " ++ toString spot.column) spot)
  | .returnOutside => .onTheWay (syntaxErrorAt "unexpected token 'return', statement" (place 0))
  | .strayBrace => .onTheWay (syntaxErrorAt "unexpected token '\x7d', primary expression" (place 0))
  | .openString => .onTheWay (syntaxError "unterminated string literal")
  | .openBrace => .atTheEnd (syntaxError "abrupt end")
  | .declaredTwice => .afterwards (syntaxErrorAt "lexical name declared multiple times" ⟨1, 1⟩)
  | _ => .running

end ServerRender.Script
