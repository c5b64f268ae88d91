import ServerRender.Script.Source

/-!
# Components

What the script of a component or of the core library does when it is loaded. The
function of a component has the name of the component and takes props and url.
Components that are loaded together are one script.
-/

namespace ServerRender.Script

/-- What the script of a component does. -/
inductive Statement where
  /-- Runs statements, and defines the function of the component with a body. -/
  | define (before body : List Command)
  | run (commands : List Command)
  | faulty (fault : SourceFault)
  deriving Inhabited

structure Component where
  name : String
  statement : Statement
  deriving Inhabited

/-- A text in a script. -/
def literal (content : String) : Expression :=
  .text (Text.units content)

/-- A member of a value by its name. -/
def dot (base : Expression) (name : String) : Expression :=
  .member base (literal name)

/-- The statement with a fault that shows when it is run. -/
def FaultKind.command : FaultKind → Command
  | badPattern => .evaluate (.construct (.identifier "RegExp") [literal "("])
  | badJson => .evaluate (.call (dot (.identifier "JSON") "parse") [literal "\x7b"])
  | badBigint => .evaluate (.call (.identifier "BigInt") [literal "x"])
  | _ => .throws (.construct (.identifier "SyntaxError") [literal "mine at line 4, col 2"])

/-- The script that is a faulty statement alone. -/
def SourceFault.program (fault : SourceFault) : Program :=
  match fault.discovery 1 with
  | .onTheWay error => .error error
  | .atTheEnd error => .error error
  | .afterwards error => .error error
  | .running => .ok [fault.kind.command]

namespace Component

/-- Gives the functions that are defined a body. -/
def fillIn (body : List Command) (commands : List Command) : List Command :=
  commands.map fun
    | .define (.mk name manner parameters _) => .define (.mk name manner parameters body)
    | command => command

/-- The function of a component without what it does, and the line behind it. -/
def header (name : String) : String :=
  "function " ++ name ++ "(props, url) \x7b\x7d\n;\n"

/-- Whether the first token of the script is a closing brace. -/
def startsWithBrace (component : Component) : Bool :=
  match component.statement with
  | .faulty fault => fault.kind == .strayBrace
  | _ => false

/-- The error of an object literal that is still open at the semicolon in front of a
component. -/
def errorInFront (component : Component) (semicolon : Position) : NativeError :=
  let what := if component.startsWithBrace then ("identifier", "identifier parsing")
    else ("property name", "property name")
  syntaxErrorAt ("expected token '" ++ what.1 ++ "', got ';' in " ++ what.2) semicolon

/-- The script of components, each with the line that it ends on. A fault that the
parser meets comes before one that is found when all is parsed, which is `later`. -/
def join (later : Option NativeError) : List (Nat × Component) → Program
  | [] =>
    match later with
    | some error => .error error
    | none => .ok []
  | (line, component) :: rest =>
    match component.statement with
    | .define before body => do
      let defined ← Source.parse line (header component.name)
      return before ++ fillIn body defined ++ (← join later rest)
    | .run commands => do return commands ++ (← join later rest)
    | .faulty fault =>
      match fault.discovery (line - fault.lines) with
      | .onTheWay error => .error error
      | .atTheEnd error =>
        match rest with
        | [] => .error error
        | (_, next) :: _ => .error (next.errorInFront ⟨line + 1, 1⟩)
      | .afterwards error => join (later.or (some error)) rest
      | .running => do return fault.kind.command :: (← join later rest)

end Component

end ServerRender.Script
