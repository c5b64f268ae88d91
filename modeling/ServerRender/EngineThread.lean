import ServerRender.CodeBundle
import ServerRender.Engine

/-!
# Engine threads

A thread owns one script environment for each loaded component, so that components
never share globals. Jobs run on it one at a time. A job that panics is answered with
an error, the thread logs it, and every environment is dropped.
-/

namespace ServerRender

/-- The environments of a thread by component. -/
structure EngineScopes (Environment : Type) where
  environments : Table Environment

namespace EngineScopes

variable {World Environment : Type}

def empty : EngineScopes Environment :=
  ⟨Table.empty⟩

def size (scopes : EngineScopes Environment) : Nat :=
  scopes.environments.size

def isEmpty (scopes : EngineScopes Environment) : Bool :=
  scopes.environments.isEmpty

/-- Loads a bundle into a fresh environment, which replaces that of its component.
When this fails the component has none. -/
def load (engine : Engine World Environment) (world : World) (scopes : EngineScopes Environment)
    (bundle : CodeBundle) : World × Reply (EngineScopes Environment) (Verdict Unit) :=
  let cleared : EngineScopes Environment := ⟨scopes.environments.erase bundle.component⟩
  match engine.create world with
  | (world, .value fresh) =>
    let (world, reply) := engine.load world fresh bundle.source
    let scopes := match reply.outcome with
      | .value _ => ⟨cleared.environments.insert bundle.component reply.after⟩
      | _ => cleared
    (world, reply.map (fun _ => scopes) id)
  | (world, .failure error) => (world, ⟨[], cleared, [], .failure error⟩)
  | (world, .panic) => (world, ⟨[], cleared, [], .panic⟩)

/-- Evaluates a script in the environment of a component. -/
def evaluate (engine : Engine World Environment) (world : World)
    (scopes : EngineScopes Environment) (component script : String) :
    World × Reply (EngineScopes Environment) (Verdict Json) :=
  match scopes.environments.get? component with
  | some environment =>
    let (world, reply) := engine.eval world environment script
    (world, reply.map (fun after => ⟨scopes.environments.insert component after⟩) id)
  | none =>
    (world, ⟨[], scopes, [], .failure (.unavailable s!"component '{component}' is not loaded")⟩)

end EngineScopes

structure EngineThread (Environment : Type) where
  id : Nat
  scopes : EngineScopes Environment

namespace EngineThread

variable {World Environment : Type}

def spawn (id : Nat) : EngineThread Environment :=
  ⟨id, EngineScopes.empty⟩

/-- What the caller of a job is told. -/
def answerOf : Verdict α → Except EngineError α
  | .value result => .ok result
  | .failure error => .error error
  | .panic => .error (.unavailable "engine job aborted")

/-- The scopes that a job leaves: none of them after a panic. -/
def scopesAfter (verdict : Verdict α) (scopes : EngineScopes Environment) :
    EngineScopes Environment :=
  match verdict with
  | .panic => EngineScopes.empty
  | _ => scopes

/-- What is logged by the end of a job that has logged so much itself. -/
def eventsAfter (id : Nat) (verdict : Verdict α) (events : List Log.Event) : List Log.Event :=
  match verdict with
  | .panic => events ++ [.jobPanicked id]
  | _ => events

/-- Runs a job on the scopes. -/
def run (thread : EngineThread Environment)
    (job : EngineScopes Environment → World × Reply (EngineScopes Environment) (Verdict α)) :
    World × Reply (EngineThread Environment) (Except EngineError α) :=
  let (world, reply) := job thread.scopes
  (world, ⟨reply.gates, { thread with scopes := scopesAfter reply.outcome reply.after },
    eventsAfter thread.id reply.outcome reply.events, answerOf reply.outcome⟩)

def load (engine : Engine World Environment) (world : World) (thread : EngineThread Environment)
    (bundle : CodeBundle) : World × Reply (EngineThread Environment) (Except EngineError Unit) :=
  thread.run fun scopes => scopes.load engine world bundle

def evaluate (engine : Engine World Environment) (world : World)
    (thread : EngineThread Environment) (component script : String) :
    World × Reply (EngineThread Environment) (Except EngineError Json) :=
  thread.run fun scopes => scopes.evaluate engine world component script

end EngineThread

end ServerRender
