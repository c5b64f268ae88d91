import ServerRender.Engine
import ServerRender.Json.Reader
import ServerRender.Json.Writer
import ServerRender.Text.Blank
import ServerRender.Text.Lines
import ServerRender.Text.Split

/-!
# The scripted engine

An engine that does what its scripts announce. A line of a loaded script may hold a
plan for loading it, and another one a plan for evaluations; a plan lists steps, of
which each call takes the next. The engine needs no language, so every behaviour of
an engine can be put on stage with it.
-/

namespace ServerRender.Scripted

/-- What a call does. -/
inductive Step where
  | succeed
  | fail (error : EngineError)
  | panic
  /-- The result is this value. -/
  | value (result : Json)
  /-- The output is the loaded source. -/
  | source
  /-- The output is the markup and the rest of each script line that starts so. -/
  | lines (start markup : String)
  /-- The output is the whole script. -/
  | script
  /-- Waits for a gate. -/
  | gate (name : String) (next : Step)
  deriving Inhabited

/-- The steps of a plan. Plans with one name count their calls together. -/
structure Plan where
  name : Option String
  steps : List Step

/-! ## Reading plans -/

def textOf : Option Json → String
  | some (.string value) => value
  | _ => ""

def numberOf : Option Json → Nat
  | some (.number (.int value)) => value.toNat
  | _ => 0

def itemsOf : Option Json → List Json
  | some (.array items) => items
  | _ => []

def readFrame (json : Json) : StackFrame where
  location := textOf (json.get? "location")
  line := UInt32.ofNat (numberOf (json.get? "line"))
  column := match json.get? "column" with
    | some (.number (.int value)) => some (UInt32.ofNat value.toNat)
    | _ => none

def readFrames (json : Json) : List StackFrame :=
  (itemsOf (json.get? "frames")).map readFrame

/-- An engine error in its JSON form. -/
def readError? (json : Json) : Option EngineError :=
  match json.get? "program", json.get? "runtime", json.get? "unavailable" with
  | some body, _, _ => some (.program (textOf (body.get? "message")) (readFrames body))
  | none, some body, _ => some (.runtime (textOf (body.get? "message")) (readFrames body))
  | none, none, some (.string message) => some (.unavailable message)
  | none, none, _ => none

/-- A step other than a wait. -/
def readPlainStep (json : Json) : Step :=
  match readError? json with
  | some error => .fail error
  | none =>
    match json.get? "panic", json.get? "value", json.get? "source", json.get? "lines" with
    | some (.bool true), _, _, _ => .panic
    | _, some result, _, _ => .value result
    | _, _, some (.bool true), _ => .source
    | _, _, _, some start => .lines (textOf (some start)) (textOf (json.get? "markup"))
    | _, _, _, _ => .script

mutual

def readStep : Json → Step
  | .object members =>
    match readNext? members with
    | some next => .gate (textOf ((Json.object members).get? "gate")) next
    | none => readPlainStep (.object members)
  | json => readPlainStep json

/-- The step after a wait, for an object that names a gate. -/
def readNext? : List (String × Json) → Option Step
  | [] => none
  | (key, _) :: rest => if key = "gate" then some (readThen rest) else readNext? rest

/-- The step that follows a wait. -/
def readThen : List (String × Json) → Step
  | [] => .script
  | (key, value) :: rest => if key = "then" then readStep value else readThen rest

end

def readPlan (json : Json) : Plan where
  name := match json.get? "id" with
    | some (.string name) => some name
    | _ => none
  steps := (itemsOf (json.get? "steps")).map readStep

/-- The plan on the first line that starts with the keyword and can be read. -/
def findPlan (keyword source : String) : Plan :=
  let found := (Text.lines source.toList).findSome? fun line => do
    let rest ← Text.afterStart? keyword.toList (Text.trim line)
    return readPlan (← Json.read? (String.ofList rest))
  found.getD ⟨none, []⟩

/-! ## The engine -/

/-- What all environments share: counts of calls, plans that are counted by name, the
plan for making environments, and the gates that are open. -/
structure World where
  creates : Nat
  loads : Nat
  evals : Nat
  named : Table Nat
  creation : List Step
  opened : List String

def World.initial (creation : List Step) : World :=
  ⟨0, 0, 0, Table.empty, creation, []⟩

def World.openGate (world : World) (gate : String) : World :=
  { world with opened := gate :: world.opened }

structure Environment where
  source : String
  /-- The evaluations so far. -/
  evals : Nat

/-- The step of a call that `count` others came before. -/
def stepAt (steps : List Step) (count : Nat) : Option Step :=
  steps[count]?.or steps.getLast?

/-- Takes the next step of a plan; `count` is for plans without a name. -/
def takeStep (world : World) (plan : Plan) (count : Nat) : World × Option Step :=
  match plan.name with
  | none => (world, stepAt plan.steps count)
  | some name =>
    let used := (world.named.get? name).getD 0
    ({ world with named := world.named.insert name (used + 1) }, stepAt plan.steps used)

/-- The gates in front of a step, and the step behind them. -/
def Step.behindGates : Step → List String × Step
  | .gate name next =>
    let (gates, last) := next.behindGates
    (name :: gates, last)
  | step => ([], step)

def output (text : String) : Json :=
  .object [("outputValue", .string text)]

/-- The rest of the lines that start with a text, with bars between them. -/
def linesAfter (start script : String) : String :=
  let rests := (Text.lines script.toList).filterMap (Text.afterStart? start.toList)
  "|".intercalate (rests.map String.ofList)

def Step.loadVerdict : Step → Verdict Unit
  | .fail error => .failure error
  | .panic => .panic
  | _ => .value ()

def Step.evalVerdict (source script : String) : Step → Verdict Json
  | .fail error => .failure error
  | .panic => .panic
  | .value result => .value result
  | .source => .value (output source)
  | .lines start markup => .value (output (markup ++ linesAfter start script))
  | _ => .value (output script)

def create (world : World) : World × Verdict Environment :=
  let step := stepAt world.creation world.creates
  let verdict : Verdict Environment := match step with
    | some (.fail error) => .failure error
    | some .panic => .panic
    | _ => .value ⟨"", 0⟩
  ({ world with creates := world.creates + 1 }, verdict)

def load (world : World) (_ : Environment) (source : String) :
    World × Reply Environment (Verdict Unit) :=
  let (world, step) := takeStep { world with loads := world.loads + 1 } (findPlan "//@load " source) 0
  let (gates, step) := (step.getD .succeed).behindGates
  (world, ⟨gates, ⟨source, 0⟩, [], step.loadVerdict⟩)

def eval (world : World) (environment : Environment) (script : String) :
    World × Reply Environment (Verdict Json) :=
  let (world, step) := takeStep { world with evals := world.evals + 1 }
    (findPlan "//@eval " environment.source) environment.evals
  let (gates, step) := (step.getD .script).behindGates
  (world, ⟨gates, { environment with evals := environment.evals + 1 }, [],
    step.evalVerdict environment.source script⟩)

def engine : Engine World Environment :=
  ⟨create, load, eval, fun world gate => world.opened.contains gate⟩

end ServerRender.Scripted
