import ServerRender.RenderError

/-!
# Log events

What a renderer reports besides its answers: its own warnings and errors, and the
lines that scripts write to their console.
-/

namespace ServerRender.Log

inductive Level where
  | error
  | warn
  | info
  | debug
  deriving DecidableEq, Inhabited

namespace Level

def name : Level → String
  | error => "error"
  | warn => "warn"
  | info => "info"
  | debug => "debug"

/-- The level of a console method. -/
def ofMethod? : String → Option Level
  | "debug" => some debug
  | "trace" => some debug
  | "log" => some info
  | "info" => some info
  | "warn" => some warn
  | "error" => some error
  | _ => none

end Level

inductive Event where
  | renderFailed (component urlPath : String) (program : Bool) (message : String)
  | stackTrace (component : String) (frames : Nat)
  | frame (index : Nat) (location : String) (window : Option String)
  | poolExhausted (size millis : Nat)
  | contextFailed (id : Nat) (error : String)
  | stateLost (context components : Nat) (error : String)
  /-- A thread of that number has survived a panic of its job. -/
  | jobPanicked (thread : Nat)
  | guest (level : Level) (text : String)
  deriving DecidableEq, Inhabited

namespace Event

def level : Event → Level
  | renderFailed _ _ _ _ => .error
  | jobPanicked _ => .error
  | guest level _ => level
  | _ => .warn

def text : Event → String
  | renderFailed _ _ _ _ => "JavaScript error during prerender"
  | stackTrace _ _ => "Stack trace with context (most recent call first)"
  | frame _ _ (some window) => "\n" ++ window
  | frame _ _ none => "<no source at this line>"
  | poolExhausted _ _ => "Context pool exhausted"
  | contextFailed _ _ => "Failed to create execution context"
  | stateLost _ _ _ => "Engine state lost, components will be reloaded"
  | jobPanicked _ => "Engine job panicked, discarding loaded components"
  | guest _ text => text

def fields : Event → List (String × Json)
  | renderFailed component urlPath program message =>
    [("component", .string component), ("url_path", .string urlPath),
      ("kind", .string (if program then "program" else "runtime")), ("message", .string message)]
  | stackTrace component frames => [("component", .string component), ("frames", .ofNat frames)]
  | frame index location _ => [("frame", .ofNat index), ("location", .string location)]
  | poolExhausted size millis => [("size", .ofNat size), ("timeout_ms", .ofNat millis)]
  | contextFailed id error => [("context_id", .ofNat id), ("error", .string error)]
  | stateLost context components error =>
    [("context_id", .ofNat context), ("components", .ofNat components), ("error", .string error)]
  | jobPanicked thread => [("context_id", .ofNat thread)]
  | guest _ _ => [("guest_log", .bool true)]

end Event

end ServerRender.Log
