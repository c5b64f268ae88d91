import ServerRender.Renderer

/-!
# Running the calls of a renderer

One order of steps among the possible ones. A call that can go on does so at once, the
first comer first, and time passes only when somebody waits for its end.
-/

namespace ServerRender.Renderer

variable {World Environment : Type}

/-- A new context never fails to start. -/
def factory : Pool.Desk.Factory (ExecutionContext Environment) :=
  fun id => .ok (ExecutionContext.create id)

/-- Serves the callers of every pool. -/
def settleDesks (renderer : Renderer World Environment) :
    Renderer World Environment × List Log.Event :=
  let settled := renderer.installations.map fun installation =>
    let (desk, events) := installation.desk.settle factory
    ({ installation with desk }, events)
  ({ renderer with installations := settled.map (·.1) }, settled.flatMap (·.2))

/-- One step of the first call that can go on. -/
def stepFirst? (engine : Engine World Environment) (renderer : Renderer World Environment)
    (time : Nat) : Option (Renderer World Environment × List Log.Event) :=
  (List.range renderer.jobs.length).findSome? fun job => renderer.step engine time job

/-- Runs up to `count` steps. -/
def runSteps (engine : Engine World Environment) (time : Nat) :
    Nat → Renderer World Environment → Renderer World Environment × List Log.Event
  | 0, renderer => (renderer, [])
  | count + 1, renderer =>
    let (settled, events) := renderer.settleDesks
    match settled.stepFirst? engine time with
    | none => (settled, events)
    | some (next, more) =>
      let (last, rest) := runSteps engine time count next
      (last, events ++ more ++ rest)

/-- Runs until every call is finished or has to wait. -/
def run (engine : Engine World Environment) (renderer : Renderer World Environment) (time : Nat) :
    Renderer World Environment × List Log.Event :=
  renderer.runSteps engine time (24 * (renderer.jobs.length + 1))

/-- Lets time pass until the pool has an answer for a call that waits for a context. -/
def passTime (renderer : Renderer World Environment) (time job : Nat) :
    Renderer World Environment × List Log.Event × Nat :=
  match (renderer.jobs[job]?).map Job.stage with
  | some (.checkout attempt) =>
    match renderer.installations[attempt.installation]? with
    | some installation =>
      let (desk, events, time) := installation.desk.await factory time attempt.caller
      (renderer.setDesk attempt.installation desk, events, time)
    | none => (renderer, [], time)
  | _ => (renderer, [], time)

/-- Runs until a call is finished, over the end of its waits. -/
def await (engine : Engine World Environment) (job : Nat) :
    Nat → Renderer World Environment → Nat → Renderer World Environment × List Log.Event × Nat
  | 0, renderer, time => (renderer, [], time)
  | rounds + 1, renderer, time =>
    let (ran, events) := renderer.run engine time
    if (ran.answer? job).isSome then (ran, events, time)
    else
      let (waited, more, later) := ran.passTime time job
      let (last, rest, final) := await engine job rounds waited later
      (last, events ++ more ++ rest, final)

end ServerRender.Renderer
