import ServerRender.CommandLine.Outcome
import ServerRender.Script.Bundle

/-!
# The program

Reads the files that a task needs, has the task done, and prints what comes of it.
-/

namespace ServerRender.Main

/-- The number that the system gives an error. -/
def systemCode? : IO.Error → Option UInt32
  | .noFileOrDirectory _ code _ => some code
  | .inappropriateType _ code _ => some code
  | .invalidArgument _ code _ => some code
  | _ => none

def fileErrorOf (error : IO.Error) : FileError :=
  match systemCode? error with
  | some 2 => .notFound
  | some 20 => .notDirectory
  | some 21 => .isDirectory
  | some 36 => .nameTooLong
  | _ => .refused (toString error)

/-- A path and what reading it gives. -/
abbrev ReadFile := String × Except FileError String

def readFile (path : String) : IO ReadFile := do
  try
    let content ← IO.FS.readBinFile path
    return (path, (String.fromUTF8? content).elim (.error .notUtf8) .ok)
  catch error => return (path, .error (fileErrorOf error))

/-- Reads from files that have been read already. -/
def readerOf (files : List ReadFile) : FileReader := fun path =>
  (files.lookup path).getD (.error .notFound)

/-- Reads a configuration file and the files that it names. -/
def readFiles (config : String) : IO (List ReadFile) := do
  let first ← readFile config
  match ConfigFile.load (readerOf [first]) config with
  | .ok config => return first :: (← (CommandLine.filesOf config).mapM readFile)
  | .error _ => return [first]

/-- An event as a line of the log. -/
def logLine (asJson : Bool) (event : Log.Event) : String :=
  let fields := Json.ofMembers event.fields
  if asJson then
    (Json.ofMembers [("level", .string event.level.name), ("text", .string event.text),
      ("fields", fields)]).write
  else event.level.name ++ " " ++ event.text ++ " " ++ fields.write

def runTask (invocation : CommandLine.Invocation) : IO UInt32 := do
  let read := readerOf (← readFiles invocation.config)
  let outcome := CommandLine.perform (Script.engine true) () read invocation
  for event in outcome.events do
    IO.eprintln (logLine invocation.jsonLogs event)
  IO.print outcome.output
  if let some failure := outcome.failure then
    IO.eprintln failure.report
  return UInt32.ofNat outcome.exitCode

end ServerRender.Main

open ServerRender in
def main (arguments : List String) : IO UInt32 := do
  let environment ← IO.getEnv "PRERENDER_CONFIG"
  match CommandLine.request arguments environment with
  | .misused =>
    IO.eprint (CommandLine.helpText environment .program)
    return 2
  | .help topic =>
    IO.print (CommandLine.helpText environment topic)
    return 0
  | .version =>
    IO.println CommandLine.version
    return 0
  | .run invocation => Main.runTask invocation
