import ServerRender.Installation

/-!
# The renderer

Calls to render or to load a component go through the same stages: they enter the
current installation, take their bundle from its cache, check a context out of its
pool, have the engine do the work, give the context back, and only then turn an engine
error into their answer. Each stage is one step, and the steps of different calls may
follow each other in any order. A render that finds its pool shut down starts over
once, with the installation that is current by then.
-/

namespace ServerRender

inductive Call where
  | render (component urlPath props : String)
  | load (component : String)
  deriving DecidableEq

def Call.component : Call → String
  | .render component _ _ => component
  | .load component => component

inductive Answer where
  | markup (text : String)
  /-- Whether a bundle was loaded by the call. -/
  | loaded (now : Bool)
  deriving DecidableEq

/-- What an engine thread did for a call. -/
inductive Work where
  | loaded (now : Bool)
  | value (result : Json)

/-- A call inside an installation, with its place among the callers of the pool. -/
structure Attempt where
  installation : Nat
  caller : Nat
  bundle : CodeBundle
  wrapper : String

inductive Stage (Environment : Type) where
  /-- About to read which installation is current. -/
  | entering
  /-- About to take the bundle from the cache. -/
  | entered (installation : Nat)
  | checkout (attempt : Attempt)
  /-- The engine thread is at work, and this is what it will answer. -/
  | working (attempt : Attempt)
      (reply : Reply (ExecutionContext Environment) (Except EngineError Work))
  /-- The bundle is loaded; about to evaluate the wrapper script. -/
  | prepared (attempt : Attempt)
  /-- About to give the context back. -/
  | leaving (attempt : Attempt) (result : Except EngineError Answer)
  | finished (result : Except RenderError Answer)

structure Job (Environment : Type) where
  call : Call
  /-- Whether the call has started over already. -/
  retried : Bool
  stage : Stage Environment

structure Renderer (World Environment : Type) where
  world : World
  /-- All installations so far; the last one is current. -/
  installations : List (Installation Environment)
  /-- All calls so far. -/
  jobs : List (Job Environment)

namespace Renderer

variable {World Environment : Type}

def create (world : World) (setup : Setup) (sources : Sources) :
    Except RenderError (Renderer World Environment) := do
  return ⟨world, [← Installation.build setup sources], []⟩

def current? (renderer : Renderer World Environment) : Option (Installation Environment) :=
  renderer.installations.getLast?

def setStage (renderer : Renderer World Environment) (job : Nat) (stage : Stage Environment) :
    Renderer World Environment :=
  { renderer with jobs := renderer.jobs.modify job fun j => { j with stage } }

def setDesk (renderer : Renderer World Environment) (installation : Nat)
    (desk : Pool.Desk (ExecutionContext Environment)) : Renderer World Environment :=
  { renderer with
    installations := renderer.installations.modify installation fun i => { i with desk } }

/-- The context that an attempt has checked out. -/
def contextOf? (renderer : Renderer World Environment) (attempt : Attempt) :
    Option (ExecutionContext Environment) := do
  let installation ← renderer.installations[attempt.installation]?
  (← installation.desk.phase? attempt.caller).context?

/-! ## The stages of a call -/

/-- Takes the bundle and steps up to the pool. -/
def takeBundle (renderer : Renderer World Environment) (time job : Nat) (call : Call)
    (index : Nat) (installation : Installation Environment) : Renderer World Environment :=
  match installation.cache.get call.component with
  | .error error => renderer.setStage job (.finished (.error error))
  | .ok bundle =>
    let wrapper := match call with
      | .render component urlPath props =>
        installation.template.wrapperScript ⟨component, urlPath, props⟩
      | .load _ => ""
    let desk := installation.desk.arrive time installation.millis
    (renderer.setDesk index desk).setStage job
      (.checkout ⟨index, installation.desk.callers.length, bundle, wrapper⟩)

/-- Starts loading the bundle, or evaluating the wrapper script. -/
def startWork (renderer : Renderer World Environment) (job : Nat) (attempt : Attempt)
    (wrap : α → Work)
    (result : World × Reply (ExecutionContext Environment) (Except EngineError α)) :
    Renderer World Environment :=
  { renderer with world := result.1 }.setStage job
    (.working attempt (result.2.map id fun outcome : Except EngineError α => outcome.map wrap))

/-- The stage after the engine thread has answered. -/
def stageAfterWork (call : Call) (attempt : Attempt) : Except EngineError Work → Stage Environment
  | .error error => .leaving attempt (.error error)
  | .ok (.value result) => .leaving attempt ((Installation.outputOf result).map .markup)
  | .ok (.loaded now) =>
    match call with
    | .render _ _ _ => .prepared attempt
    | .load _ => .leaving attempt (.ok (.loaded now))

/-- What a call answers in the end, and what is logged with it. -/
def concludeCall (installation : Installation Environment) (call : Call) (attempt : Attempt) :
    Except EngineError Answer → Except RenderError Answer × List Log.Event
  | .ok answer => (.ok answer, [])
  | .error cause =>
    let failed : FailedRender := match call with
      | .render _ urlPath props =>
        ⟨attempt.bundle.component, urlPath, props, attempt.bundle.source, attempt.wrapper⟩
      | .load _ => ⟨attempt.bundle.component, "", "", attempt.bundle.source, ""⟩
    let (error, events) := installation.fail failed cause
    (.error error, events)

/-- Starts over, or gives up. -/
def refuse (renderer : Renderer World Environment) (job : Nat) (state : Job Environment)
    (error : RenderError) : Renderer World Environment :=
  match error, state.call, state.retried with
  | .poolShutdown, .render _ _ _, false =>
    { renderer with jobs := renderer.jobs.set job { state with retried := true, stage := .entering } }
  | _, _, _ => renderer.setStage job (.finished (.error error))

/-- The next step of a call at some time; `none` if it is finished or has to wait. The
actions of the callers of a pool are steps of their own. -/
def step (engine : Engine World Environment) (renderer : Renderer World Environment)
    (time job : Nat) : Option (Renderer World Environment × List Log.Event) := do
  let state ← renderer.jobs[job]?
  match state.stage with
  | .entering => return (renderer.setStage job (.entered (renderer.installations.length - 1)), [])
  | .entered index =>
    let installation ← renderer.installations[index]?
    return (renderer.takeBundle time job state.call index installation, [])
  | .checkout attempt =>
    let installation ← renderer.installations[attempt.installation]?
    match ← installation.desk.phase? attempt.caller with
    | .holding context =>
      return (renderer.startWork job attempt .loaded
        (context.ensureLoaded engine renderer.world attempt.bundle), [])
    | .refused error => return (renderer.refuse job state error, [])
    | _ => none
  | .prepared attempt =>
    let context ← renderer.contextOf? attempt
    return (renderer.startWork job attempt .value
      (context.evaluate engine renderer.world attempt.bundle.component attempt.wrapper), [])
  | .working attempt reply =>
    if reply.gates.all (engine.isOpen renderer.world) then
      let installation ← renderer.installations[attempt.installation]?
      let desk := installation.desk.updateHeld attempt.caller reply.after
      return ((renderer.setDesk attempt.installation desk).setStage job
        (stageAfterWork state.call attempt reply.outcome), reply.events)
    else none
  | .leaving attempt result =>
    let installation ← renderer.installations[attempt.installation]?
    let (desk, _) ← installation.desk.step (.release attempt.caller)
    let (answer, events) := concludeCall installation state.call attempt result
    return ((renderer.setDesk attempt.installation desk).setStage job (.finished answer), events)
  | .finished _ => none

/-! ## The other calls -/

/-- Lets a new call in. It is the last of the jobs. -/
def accept (renderer : Renderer World Environment) (call : Call) : Renderer World Environment :=
  { renderer with jobs := renderer.jobs ++ [⟨call, false, .entering⟩] }

/-- The answer of a finished call. -/
def answer? (renderer : Renderer World Environment) (job : Nat) :
    Option (Except RenderError Answer) :=
  match (renderer.jobs[job]?).map Job.stage with
  | some (.finished result) => some result
  | _ => none

/-- Changes the current installation. -/
def updateCurrent (renderer : Renderer World Environment)
    (f : Installation Environment → Installation Environment) : Renderer World Environment :=
  { renderer with installations := renderer.installations.modify (renderer.installations.length - 1) f }

/-- Closes the pool of the current installation. -/
def shutdown (renderer : Renderer World Environment) : Renderer World Environment :=
  renderer.updateCurrent fun i => { i with desk := i.desk.shutdown }

/-- Puts a new installation in place of the current one, whose pool closes first. -/
def install (renderer : Renderer World Environment) (fresh : Installation Environment) :
    Renderer World Environment :=
  { renderer.shutdown with installations := renderer.shutdown.installations ++ [fresh] }

/-- Rebuilds the bundle of a component whose source has changed. -/
def componentChanged (renderer : Renderer World Environment) (sources : Sources)
    (component : String) : Except RenderError (Renderer World Environment) :=
  match renderer.current? with
  | none => .ok renderer
  | some installation => do
    let cache ← installation.cache.invalidate sources component
    return renderer.updateCurrent fun i => { i with cache }

/-- The number of live script environments. -/
def environmentCount (renderer : Renderer World Environment) : Nat :=
  (renderer.installations.flatMap fun installation => installation.desk.contexts).foldr
    (fun context total => context.environmentCount + total) 0

end Renderer

end ServerRender
