import ServerRender.EngineThread

/-!
# Execution contexts

An engine thread with a record of what it has loaded: for each component the
generation of its bundle. A bundle is loaded again only when its generation differs
from the recorded one, or when the engine was lost meanwhile.
-/

namespace ServerRender

structure ExecutionContext (Environment : Type) where
  id : Nat
  thread : EngineThread Environment
  /-- The generations of the loaded bundles by component. -/
  loaded : Table Nat
  /-- How many evaluations were asked for. -/
  renders : Nat

namespace ExecutionContext

variable {World Environment : Type}

def create (id : Nat) : ExecutionContext Environment :=
  ⟨id, EngineThread.spawn id, Table.empty, 0⟩

def generation? (context : ExecutionContext Environment) (component : String) : Option Nat :=
  context.loaded.get? component

def isLoaded (context : ExecutionContext Environment) (component : String) : Bool :=
  context.loaded.contains component

/-- The number of live script environments. -/
def environmentCount (context : ExecutionContext Environment) : Nat :=
  context.thread.scopes.size

/-- Forgets what was loaded when a call found the engine out of reach. -/
def settle (context : ExecutionContext Environment) (events : List Log.Event)
    (answer : Except EngineError α) : ExecutionContext Environment × List Log.Event :=
  match answer with
  | .error error =>
    if error.isUnavailable && !context.loaded.isEmpty then
      ({ context with loaded := Table.empty },
        events ++ [.stateLost context.id context.loaded.size error.message])
    else (context, events)
  | .ok _ => (context, events)

/-- Takes over the reply of the thread; `record` notes a success. -/
def conclude (context : ExecutionContext Environment)
    (record : ExecutionContext Environment → ExecutionContext Environment) (wrap : α → β)
    (reply : Reply (EngineThread Environment) (Except EngineError α)) :
    Reply (ExecutionContext Environment) (Except EngineError β) :=
  let context := { context with thread := reply.after }
  let (settled, events) := context.settle reply.events reply.outcome
  let after := match reply.outcome with
    | .ok _ => record settled
    | .error _ => settled
  ⟨reply.gates, after, events, reply.outcome.map wrap⟩

/-- Loads a bundle unless its generation is loaded already, and tells which. -/
def ensureLoaded (engine : Engine World Environment) (world : World)
    (context : ExecutionContext Environment) (bundle : CodeBundle) :
    World × Reply (ExecutionContext Environment) (Except EngineError Bool) :=
  if context.generation? bundle.component = some bundle.generation then
    (world, ⟨[], context, [], .ok false⟩)
  else
    let stale := { context with loaded := context.loaded.erase bundle.component }
    let (world, reply) := stale.thread.load engine world bundle
    (world, stale.conclude
      (fun context =>
        { context with loaded := context.loaded.insert bundle.component bundle.generation })
      (fun _ => true) reply)

/-- Evaluates a script in the environment of a component. -/
def evaluate (engine : Engine World Environment) (world : World)
    (context : ExecutionContext Environment) (component script : String) :
    World × Reply (ExecutionContext Environment) (Except EngineError Json) :=
  let counted := { context with renders := context.renders + 1 }
  let (world, reply) := counted.thread.evaluate engine world component script
  (world, counted.conclude (fun context => context) (fun value => value) reply)

end ExecutionContext

end ServerRender
