import ServerRender.Json.Basic
import ServerRender.Script.Component

/-!
# Scripts in JSON form

Expressions, components and programs as JSON. A JSON value stands for the value that
it spells; an object with a member `$` stands for what that member says.
-/

namespace ServerRender.Script

/-! ## Members -/

def textMember? (json : Json) (name : String) : Option String :=
  match json.get? name with
  | some (.string value) => some value
  | _ => none

def textMember (json : Json) (name : String) : String :=
  (textMember? json name).getD ""

def natMember (json : Json) (name : String) : Nat :=
  match json.get? name with
  | some (.number (.int value)) => value.toNat
  | _ => 0

def listMember (json : Json) (name : String) : List Json :=
  match json.get? name with
  | some (.array items) => items
  | _ => []

def stringIn : Json → String
  | .string value => value
  | _ => ""

/-! ## Expressions -/

/-- Objects of the language by their names in JSON form, as scripts make them. -/
def libraryTexts : List (String × String) := [
  ("date", "new Date(0)"),
  ("map", "new Map([[1, 2]])"),
  ("set", "new Set([1])"),
  ("regexp", "/x/g"),
  ("boxed_number", "new Number(5)"),
  ("boxed_string", "new String('ab')"),
  ("boxed_bool", "new Boolean(false)"),
  ("null_proto", "Object.create(null)"),
  ("proxy_array", "new Proxy([1, 2], \x7b\x7d)"),
  ("proxy_object", "new Proxy(\x7ba: 1\x7d, \x7b\x7d)"),
  ("proxy_keys_throw",
    "new Proxy(\x7b\x7d, \x7bownKeys() \x7bthrow new TypeError('no keys')\x7d\x7d)"),
  ("typed_array", "new Uint8Array([7, 8])"),
  ("arguments", "(function () \x7breturn arguments\x7d)(1, 'x')"),
  ("class", "class A \x7b\x7d"),
  ("instance", "new (class \x7bconstructor() \x7bthis.x = 1\x7d get y() \x7breturn 2\x7d\x7d)()"),
  ("arrow", "() => \x7b\x7d"),
  ("array_extra", "Object.assign([1, 2], \x7bextra: true\x7d)"),
  ("math_floor", "Math.floor"),
  ("json_object", "JSON")]

/-- The expression that a text spells, and null for no expression. -/
def spelled (text : String) : Expression :=
  (Expression.parse? text).getD .null

def numberExpression : Json.Number → Expression
  | .int value => .number (.ofInt value)
  | .double value => .number value

/-- An entry of an object under a name. -/
def entryOf (name : String) (role : Role) (value : Expression) : Entry :=
  .mk false role (literal name) value

/-- A property with a symbol for its key, and one that no listing shows. -/
def extraEntries (json : Json) : List Entry :=
  ((textMember? json "symbol_key").map fun key =>
      Entry.mk false .value (.symbol key) (.number (.ofNat 1))).toList
    ++ ((textMember? json "hidden").map fun key => entryOf key .hidden (literal "hidden")).toList

/-- The constructor of a class that goes by a name, the usual one of errors by none. -/
def constructorOf (className : String) : Expression :=
  if className.isEmpty then .identifier "Error"
  else
    match Expression.parse? ("new " ++ className) with
    | some (.construct maker []) => maker
    | _ => .identifier className

/-- The expression for an object with a member `$`, whose other members have been
read. -/
def special (kind : String) (json : Json) (value : Expression) (entries : List Entry)
    (parent : Option Expression) : Role × Expression :=
  match kind with
  | "undefined" => (.value, .undefined)
  | "num" => (.value, spelled (textMember json "v"))
  | "bigint" => (.value, spelled (textMember json "v" ++ "n"))
  | "symbol" => (.value, .symbol (textMember json "v"))
  | "function" => (.value, spelled "function f() \x7b\x7d")
  | "units" => (.value, .text ((listMember json "v").map fun unit =>
      match unit with
      | .number (.int value) => UInt16.ofNat value.toNat
      | _ => 0))
  | "holes" => (.value, .holes (natMember json "n"))
  | "ref" => (.value, .enclosing (natMember json "up"))
  | "shared" => (.value, .shared (textMember json "id") value)
  | "nest" => (.value, .nested (natMember json "n") (textMember json "kind" == "object") value)
  | "obj" =>
    let object := Expression.object (entries ++ extraEntries json)
    (.value, (parent.map object.inheriting).getD object)
  | "error" =>
    let maker := constructorOf (textMember json "class")
    (.value, .extended (.construct maker ((textMember? json "message").map literal).toList) entries)
  | "getter" => (.giver, value)
  | "thrower" => (.thrower, value)
  | "js" => (.value, ((libraryTexts.lookup (textMember json "name")).map spelled).getD .null)
  | _ => (.value, .null)

mutual

/-- What an entry with this JSON value makes, and of which value. -/
def readRole : Json → Role × Expression
  | .null => (.value, .null)
  | .bool value => (.value, .bool value)
  | .number value => (.value, numberExpression value)
  | .string value => (.value, .text (Text.units value))
  | .array items => (.value, .array (readItems items))
  | .object members =>
    match (Json.object members).get? "$" with
    | none => (.value, .object (readMembers members))
    | some kind => special (stringIn kind) (.object members) ((readMember? "v" members).getD .null)
        (readEntries members) (readMember? "proto" members)

def readItems : List Json → List Expression
  | [] => []
  | item :: rest => (readRole item).2 :: readItems rest

/-- The members of an object as entries. -/
def readMembers : List (String × Json) → List Entry
  | [] => []
  | (name, value) :: rest => entryOf name (readRole value).1 (readRole value).2 :: readMembers rest

/-- The expression in a member. -/
def readMember? (name : String) : List (String × Json) → Option Expression
  | [] => none
  | (key, value) :: rest => if key = name then some (readRole value).2 else readMember? name rest

/-- The pairs in the member `entries`. -/
def readEntries : List (String × Json) → List Entry
  | [] => []
  | (key, value) :: rest =>
    if key = "entries" then
      match value with
      | .array pairs => readPairs pairs
      | _ => []
    else readEntries rest

def readPairs : List Json → List Entry
  | [] => []
  | .array [.string key, value] :: rest =>
    entryOf key (readRole value).1 (readRole value).2 :: readPairs rest
  | _ :: rest => readPairs rest

end

/-- An expression that stands on its own in a script. -/
def readApart (json : Json) : Expression :=
  .apart (readRole json).2

/-! ## Statements -/

/-- A call of a method of the console. -/
def consoleCall (method : String) (arguments : List Expression) : Command :=
  .evaluate (.apart (.call (dot (.identifier "console") method) arguments))

def readCall : Json → Command
  | .array (.string method :: .array arguments :: _) => consoleCall method (readItems arguments)
  | .array (.string method :: _) => consoleCall method []
  | _ => consoleCall "" []

def readCalls : Json → List Command
  | .array calls => calls.map readCall
  | _ => []

/-- The text of an expression for the kinds of what some names stand for, with blanks
between them. -/
def kindsText (json : Json) : String :=
  let names := match json with
    | .array names => names.map stringIn
    | _ => []
  "[" ++ ", ".intercalate (names.map ("typeof " ++ ·)) ++ "].join(' ')"

/-- An operation that fails, by its name. -/
def readMisuse (json : Json) : Command :=
  match stringIn json with
  | "undefined_name" => .evaluate (.identifier "missingName")
  | "null_member" => .fails .notAnObject
  | "not_callable" => .fails .notCallable
  | "const_assign" => .fails (.typeError "cannot mutate an immutable binding 'c'")
  | _ => .evaluate (.construct (.identifier "Array") [.number (.ofInt (-1))])

def readFault (json : Json) : SourceFault where
  kind := match textMember json "kind" with
    | "var_eq" => .varWithoutName
    | "paren" => .functionWithoutName
    | "bad_token" => .strayCharacter
    | "dup_let" => .declaredTwice
    | "return" => .returnOutside
    | "open_brace" => .openBrace
    | "string" => .openString
    | "regexp" => .badPattern
    | "json" => .badJson
    | "bigint" => .badBigint
    | "thrown" => .thrown
    | _ => .strayBrace
  lines := natMember json "lines"
  indent := natMember json "indent"

/-- The first member with a reader. -/
def readFirst? (readers : List (String × (Json → α))) (json : Json) : Option α :=
  readers.findSome? fun (name, reader) => (json.get? name).map reader

/-! ## Components -/

/-- A declaration of a variable. -/
def declaration (name : String) (value : Expression) : Command :=
  .declare .variable (.place (.identifier name)) value

/-- A function that counts its calls in a global variable. -/
def countingStatement : Statement :=
  let count := Expression.identifier "count"
  .define [declaration "count" (.number (.ofNat 0))]
    [.returns (.binary .add (literal "count=") (.step false .add count))]

/-- The body of a function that gives back its arguments. -/
def echo : List Command :=
  [.returns (.object
    [entryOf "props" .value (.identifier "props"), entryOf "url" .value (.identifier "url")])]

/-- The body of a function that lets a timer change a value that it gives back. -/
def waiting (value : Expression) : List Command :=
  let result := Expression.identifier "result"
  let change := Command.evaluate (.assign (.place (dot result "out")) value)
  let timer := Expression.call (.identifier "setTimeout")
    [.closure (.mk "" .plain [] [change]), .number (.ofNat 0)]
  [declaration "result" (.object [entryOf "out" .value (literal "unset")]),
    .evaluate (.assign (.place (dot result "id")) timer),
    .returns result]

/-- The function of the core library, which puts a text in front of another. -/
def coreFunction (start : String) : Command :=
  .define (.mk "coreFn" .plain [.place (.identifier "text")]
    [.returns (.binary .add (literal start) (.identifier "text"))])

def readStatement (json : Json) : Statement :=
  (readFirst? [
    ("return", fun value => .define [] [.returns (readApart value)]),
    ("throw", fun value => .define [] [.throws (readApart value)]),
    ("native", fun value => .define [] [readMisuse value]),
    ("count", fun _ => countingStatement),
    ("echo", fun _ => .define [] echo),
    ("timeout", fun value => .define [] (waiting (readApart value))),
    ("log", fun value => .define [] (readCalls value ++ [.returns (literal "logged")])),
    ("typeof", fun value => .define [] [.returns ((Expression.parse? (kindsText value)).getD .undefined)]),
    ("call_core", fun value => .define []
      [.returns (.call (.identifier "coreFn") [literal (stringIn value)])]),
    ("load_throw", fun value => .run [.throws (readApart value)]),
    ("syntax", fun value => .faulty (readFault value)),
    ("core_fn", fun value => .run [coreFunction (stringIn value)])] json).getD (.define [] [])

def readComponent (json : Json) : Component :=
  ⟨textMember json "name", readStatement ((json.get? "does").getD .null)⟩

/-! ## Programs -/

/-- The declaration of a global, whose name can keep it from being read. -/
def readDeclaration : Json → Program
  | .array (.string name :: value :: _) =>
    Source.parseWith ("var " ++ name ++ " = 0;") (readApart value)
  | _ => .ok []

def readProgram (json : Json) : Program :=
  (readFirst? [
    ("value", fun value => .ok [.evaluate (readApart value)]),
    ("throw", fun value => .ok [.throws (readApart value)]),
    ("set", readDeclaration),
    ("get", fun value => Source.parse 1 (stringIn value)),
    ("typeof", fun value => Source.parse 1 (kindsText value)),
    ("console", fun value => .ok (readCalls value ++ [.evaluate (literal "done")])),
    ("native", fun value => .ok [readMisuse value]),
    ("syntax", fun value => (readFault value).program)] json).getD (.ok [])

end ServerRender.Script
