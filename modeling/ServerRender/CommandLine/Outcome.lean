import ServerRender.CommandLine
import ServerRender.ConfigFile.Decoding
import ServerRender.Json.Reader
import ServerRender.Props
import ServerRender.Renderer.Schedule

/-!
# Outcomes of tasks

What a task of the program prints and how it ends. The sources that the configuration
names are read once; a source that cannot be read is left out.
-/

namespace ServerRender.CommandLine

/-- Why a task failed: a message, and its causes from the nearest on. -/
structure Failure where
  message : String
  causes : List String
  deriving DecidableEq

namespace Failure

def ofRenderError (error : RenderError) : Failure :=
  ⟨error.message, []⟩

/-- The causes that an error of a configuration file is told with. -/
def causesOf : ConfigFileError → List String
  | .unreadable path error => [(ConfigFileError.unreadable path error).message, error.message]
  | .malformed => [ConfigFileError.malformed.message ++ "TOML parse error"]
  | error => [error.message]

/-- The lines of a cause, the later ones as far in as the first. -/
def indented (first rest cause : String) : String :=
  first ++ ("\n" ++ rest).intercalate ((cause.toList.splitOn '\n').map String.ofList)

/-- One cause stands alone, several are numbered. -/
def causeLines : List String → List String
  | [cause] => [indented "    " "    " cause]
  | causes => causes.zipIdx.map fun (cause, index) =>
    indented (Text.padLeft 5 (toString index) ++ ": ") "       " cause

/-- The report of a failure. -/
def report (failure : Failure) : String :=
  "Error: " ++ failure.message ++
    (if failure.causes.isEmpty then ""
    else "\n\nCaused by:\n" ++ "\n".intercalate (causeLines failure.causes))

end Failure

structure Outcome where
  /-- What is printed. -/
  output : String
  failure : Option Failure
  events : List Log.Event

def Outcome.exitCode (outcome : Outcome) : Nat :=
  if outcome.failure.isSome then 1 else 0

/-- The sources that can be read. A later component replaces an earlier one of its
name. -/
def readSources (read : FileReader) (config : ConfigFile) : Sources :=
  let core := match config.core.map (readSource read) with
    | some (.ok source) => Table.empty.insert CodeBundle.coreComponent source
    | _ => Table.empty
  config.components.foldl (fun sources entry =>
    match readSource read entry.path with
    | .ok source => sources.insert entry.name source
    | .error _ => sources) core

/-- The paths of the files that a configuration names. -/
def filesOf (config : ConfigFile) : List String :=
  config.wrapper.path.toList ++ config.core.toList ++ config.components.map ComponentEntry.path

variable {World Environment : Type}

/-- The configuration at a path, and the renderer that it sets up. -/
def prepare (world : World) (read : FileReader) (path : String) :
    Except Failure (Renderer World Environment) := do
  let config ← (ConfigFile.load read path).mapError fun error =>
    ⟨"Failed to load " ++ path, Failure.causesOf error⟩
  let wrapper ← (config.wrapper.load read).mapError fun error =>
    ⟨"Failed to load wrapper template", Failure.causesOf error⟩
  let setup : Setup := ⟨wrapper, "", config.renderer⟩
  (Renderer.create world setup (readSources read config)).mapError Failure.ofRenderError

/-! ## Rendering -/

/-- What renders of a component print and how the task ends. The markup of the first
that succeeded is printed. -/
def concludeRenders (component : String) (answers : List (Except RenderError Answer)) :
    String × Option Failure :=
  let markup := answers.findSome? fun
    | .ok (.markup text) => some text
    | _ => none
  let failures := (answers.filter fun
    | .error _ => true
    | .ok _ => false).length
  match markup with
  | some text =>
    (text ++ "\n", if failures = 0 then none else some ⟨toString failures ++ " render(s) failed", []⟩)
  | none => ("", some ⟨"every render of " ++ component ++ " failed", []⟩)

/-- Makes a call so many times at once and waits for every answer. -/
def callAtOnce (engine : Engine World Environment) (renderer : Renderer World Environment)
    (call : Call) (count : Nat) :
    Renderer World Environment × List (Except RenderError Answer) × List Log.Event :=
  let first := renderer.jobs.length
  let accepted := (List.range count).foldl (fun renderer _ => renderer.accept call) renderer
  let (last, answers, events, _) := (List.range count).foldl (fun (renderer, answers, events, time) index =>
    let (renderer, more, time) := renderer.await engine (first + index) 4 time
    (renderer, answers ++ (renderer.answer? (first + index)).toList, events ++ more, time))
    (accepted, [], [], 0)
  (last, answers, events)

def renderTask (engine : Engine World Environment) (renderer : Renderer World Environment)
    (component url props : String) (concurrency : Nat) : Outcome :=
  match Json.read? props with
  | none => ⟨"", some ⟨"--props must be valid JSON", ["expected one JSON value at line 1"]⟩, []⟩
  | some props =>
    let call : Call := .render component url (Props.json props).toText
    let (_, answers, events) := callAtOnce engine renderer call (max concurrency 1)
    let (output, failure) := concludeRenders component answers
    ⟨output, failure, events⟩

/-! ## Checking -/

/-- Loads components one after the other: those that failed, and what was logged. -/
def loadAll (engine : Engine World Environment) :
    Renderer World Environment → List String → List String × List Log.Event
  | _, [] => ([], [])
  | renderer, component :: rest =>
    let (after, answers, events) := callAtOnce engine renderer (.load component) 1
    let failed := answers.any fun
      | .error _ => true
      | .ok _ => false
    let (others, more) := loadAll engine after rest
    (if failed then component :: others else others, events ++ more)

def checkTask (engine : Engine World Environment) (renderer : Renderer World Environment) : Outcome :=
  let components := (renderer.current?.map fun installation => installation.cache.components).getD []
  let (failed, events) := loadAll engine renderer components
  let total := toString components.length
  if failed.isEmpty then ⟨total ++ " component(s) OK\n", none, events⟩
  else
    ⟨"", some ⟨toString failed.length ++ " of " ++ total ++ " component(s) failed: "
      ++ ", ".intercalate failed, []⟩, events⟩

/-- Runs a task with the files that can be read. -/
def perform (engine : Engine World Environment) (world : World) (read : FileReader)
    (invocation : Invocation) : Outcome :=
  match prepare world read invocation.config with
  | .error failure => ⟨"", some failure, []⟩
  | .ok (renderer : Renderer World Environment) =>
    match invocation.task with
    | .render component url props concurrency =>
      renderTask engine renderer component url props concurrency
    | .check => checkTask engine renderer

end ServerRender.CommandLine
