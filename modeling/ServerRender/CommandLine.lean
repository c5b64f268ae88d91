import ServerRender.Text.Numeral
import ServerRender.Text.Split

/-!
# Command lines

The arguments of the program: options for all tasks, then a task with options of its
own. An option takes its value behind an equals sign or from the next argument, which
must not look like an option. Arguments are read from left to right, and the first
one that asks for help or for the version, or that is wrong, decides.
-/

namespace ServerRender

namespace CommandLine

inductive Task where
  /-- Renders a component so many times at once. -/
  | render (component url props : String) (concurrency : Nat)
  /-- Loads every component. -/
  | check
  deriving DecidableEq

/-- A task and the configuration file for it. -/
structure Invocation where
  config : String
  jsonLogs : Bool
  task : Task
  deriving DecidableEq

/-- What help is about. -/
inductive Topic where
  | program
  | render
  | check
  deriving DecidableEq

inductive Request where
  /-- The arguments are wrong. -/
  | misused
  | help (topic : Topic)
  | version
  | run (invocation : Invocation)
  deriving DecidableEq

/-- The configuration file that is read when no other is named. -/
def defaultConfig : String := "prerender.toml"

/-- An argument that can be no value of an option before it. -/
def isOption (argument : String) : Bool :=
  match argument.toList with
  | '-' :: _ :: _ => true
  | _ => false

/-- The name of a long option, and its value behind an equals sign. -/
def longOption? (argument : String) : Option (String × Option String) := do
  let body ← Text.afterStart? ['-', '-'] argument.toList
  match Text.splitFirst? ['='] body with
  | some (name, value) => return (String.ofList name, some (String.ofList value))
  | none => return (String.ofList body, none)

/-- The value of an option and the arguments behind it. -/
def takeValue? (value : Option String) (rest : List String) : Option (String × List String) :=
  match value, rest with
  | some value, _ => some (value, rest)
  | none, next :: others => if isOption next then none else some (next, others)
  | none, [] => none

/-- A value for an option that has none yet. -/
def setOnce (old : Option α) (value : α) : Option (Option α) :=
  if old.isSome then none else some (some value)

/-! ## Tasks -/

/-- The arguments of a render as far as they are read. -/
structure RenderArguments where
  component : Option String
  url : Option String
  props : Option String
  concurrency : Option Nat

namespace RenderArguments

def empty : RenderArguments :=
  ⟨none, none, none, none⟩

def task? (read : RenderArguments) : Option Task :=
  read.component.map fun component =>
    .render component (read.url.getD "/") (read.props.getD "\x7b\x7d") (read.concurrency.getD 1)

def setComponent? (read : RenderArguments) (component : String) : Option RenderArguments :=
  (setOnce read.component component).map fun component => { read with component }

/-- Sets a long option. -/
def setOption? (read : RenderArguments) (name value : String) : Option RenderArguments :=
  match name with
  | "url" => (setOnce read.url value).map fun url => { read with url }
  | "props" => (setOnce read.props value).map fun props => { read with props }
  | "concurrency" => do
    let count ← Text.numeral? UInt64.size value.toList
    let concurrency ← setOnce read.concurrency count
    return { read with concurrency }
  | _ => none

def hasOption (name : String) : Bool :=
  name == "url" || name == "props" || name == "concurrency"

end RenderArguments

/-- What the arguments of a task ask for. -/
inductive TaskRequest where
  | misused
  | help
  | run (task : Task)

def TaskRequest.ofTask? : Option Task → TaskRequest
  | some task => .run task
  | none => .misused

/-- The arguments behind a double dash, which are no options. -/
def readPlainRender (read : RenderArguments) (arguments : List String) : TaskRequest :=
  .ofTask? ((arguments.foldlM RenderArguments.setComponent? read).bind RenderArguments.task?)

def readRender : Nat → RenderArguments → List String → TaskRequest
  | 0, _, _ => .misused
  | _, read, [] => .ofTask? read.task?
  | fuel + 1, read, argument :: rest =>
    if argument = "--" then readPlainRender read rest
    else if argument = "--help" then .help
    else if argument.startsWith "-h" then .help
    else match longOption? argument with
      | some (name, value) =>
        if RenderArguments.hasOption name then
          match takeValue? value rest with
          | some (value, others) =>
            match read.setOption? name value with
            | some next => readRender fuel next others
            | none => .misused
          | none => .misused
        else .misused
      | none =>
        if isOption argument then .misused
        else match read.setComponent? argument with
          | some next => readRender fuel next rest
          | none => .misused

def readCheck : List String → TaskRequest
  | [] => .run .check
  | ["--"] => .run .check
  | argument :: _ =>
    if argument = "--help" || argument.startsWith "-h" then .help else .misused

/-- The topic that arguments of `help` name. -/
def readTopic : List String → Request
  | [] => .help .program
  | ["help"] => .help .program
  | ["render"] => .help .render
  | ["check"] => .help .check
  | _ => .misused

/-! ## All arguments -/

/-- The options before the task. -/
structure GlobalOptions where
  config : Option String
  jsonLogs : Bool

/-- The request for a task. A configuration has to have a name. -/
def GlobalOptions.request (options : GlobalOptions) (fromEnvironment : Option String) (topic : Topic) :
    TaskRequest → Request
  | .misused => .misused
  | .help => .help topic
  | .run task =>
    let config := (options.config.or fromEnvironment).getD defaultConfig
    if config.isEmpty then .misused else .run ⟨config, options.jsonLogs, task⟩

def GlobalOptions.setConfig? (options : GlobalOptions) (config : String) : Option GlobalOptions :=
  if config.isEmpty then none
  else (setOnce options.config config).map fun config => { options with config }

/-- The first letter of an argument of short options and what stands behind it. -/
def shortOption? (argument : String) : Option (Char × List Char) :=
  match argument.toList with
  | '-' :: letter :: rest => if letter = '-' then none else some (letter, rest)
  | _ => none

/-- The value right behind a short option. -/
def attachedValue? : List Char → Option String
  | [] => none
  | '=' :: value => some (String.ofList value)
  | value => some (String.ofList value)

def readAll (fromEnvironment : Option String) : Nat → GlobalOptions → List String → Request
  | 0, _, _ => .misused
  | _, _, [] => .misused
  | fuel + 1, options, argument :: rest =>
    let setConfig (value : Option String) : Request :=
      match takeValue? value rest with
      | some (config, others) =>
        match options.setConfig? config with
        | some next => readAll fromEnvironment fuel next others
        | none => .misused
      | none => .misused
    match argument with
    | "--help" => .help .program
    | "--version" => .version
    | "--json-logs" =>
      if options.jsonLogs then .misused
      else readAll fromEnvironment fuel { options with jsonLogs := true } rest
    | "render" => options.request fromEnvironment .render (readRender (rest.length + 1) .empty rest)
    | "check" => options.request fromEnvironment .check (readCheck rest)
    | "help" => readTopic rest
    | _ =>
      match shortOption? argument with
      | some ('h', _) => .help .program
      | some ('V', _) => .version
      | some ('c', attached) => setConfig (attachedValue? attached)
      | some _ => .misused
      | none =>
        match longOption? argument with
        | some ("config", value) => setConfig value
        | _ => .misused

/-- What arguments ask for. The environment may name the configuration file. -/
def request (arguments : List String) (fromEnvironment : Option String) : Request :=
  readAll fromEnvironment (arguments.length + 1) ⟨none, false⟩ arguments

/-! ## Help -/

def version : String := "prerender 0.1.0"

/-- A text whose later lines are indented as far as the descriptions of options are. -/
def inDescription (text : String) : String :=
  let indent := List.replicate 25 ' '
  String.ofList (text.toList.flatMap fun c => if c = '\n' then c :: indent else [c])

/-- The help on a topic. It tells what the environment names. -/
def helpText (fromEnvironment : Option String) : Topic → String
  | .program =>
    "Server-side prerendering of script components\n\n" ++
    "Usage: prerender [OPTIONS] <COMMAND>\n\n" ++
    "Commands:\n" ++
    "  render  Render a component and print its markup\n" ++
    "  check   Load every registered component and report failures\n" ++
    "  help    Print this message or the help of the given subcommand(s)\n\n" ++
    "Options:\n" ++
    "  -c, --config <CONFIG>  Configuration file [env: PRERENDER_CONFIG="
      ++ inDescription (fromEnvironment.getD "") ++ "] [default: " ++ defaultConfig ++ "]\n" ++
    "      --json-logs        Emit logs as JSON\n" ++
    "  -h, --help             Print help\n" ++
    "  -V, --version          Print version\n"
  | .render =>
    "Render a component and print its markup\n\n" ++
    "Usage: prerender render [OPTIONS] <COMPONENT>\n\n" ++
    "Arguments:\n" ++
    "  <COMPONENT>  Component name\n\n" ++
    "Options:\n" ++
    "      --url <URL>                  Request path passed to the component [default: /]\n" ++
    "      --props <PROPS>              Props as JSON [default: \x7b\x7d]\n" ++
    "      --concurrency <CONCURRENCY>  Render this many times concurrently (markup is printed once) [default: 1]\n" ++
    "  -h, --help                       Print help\n"
  | .check =>
    "Load every registered component and report failures\n\n" ++
    "Usage: prerender check\n\n" ++
    "Options:\n" ++
    "  -h, --help  Print help\n"

end CommandLine

end ServerRender
