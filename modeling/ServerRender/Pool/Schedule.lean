import ServerRender.Pool.Desk

/-!
# Running the callers of a pool

One order of actions among the possible ones: whoever can go on does so at once, the
first comer first, notices go to the caller who came first, and time passes only when
somebody waits for its end.
-/

namespace ServerRender.Pool.Desk

variable {Context : Type}

/-- How contexts are made. -/
abbrev Factory (Context : Type) := Nat → Except RenderError Context

/-- What a caller does next of its own accord. -/
def ownAction? (factory : Factory Context) (caller : Nat) :
    Phase Context → Option (Action Context)
  | .looking => some (.look caller)
  | .timedOut => some (.look caller)
  | .building id => some (.build caller (factory id))
  | _ => none

/-- The next action that does not have to wait for anything. -/
def urgent? (factory : Factory Context) (desk : Desk Context) : Option (Action Context) :=
  let own := (List.range desk.callers.length).findSome? fun caller =>
    (desk.phase? caller).bind (ownAction? factory caller)
  match own with
  | some action => some action
  | none =>
    if desk.closing then some .announce
    else if desk.notices = 0 then none
    else some (.notify desk.parked.head?)

/-- Runs up to `count` urgent actions. -/
def runUrgent (factory : Factory Context) : Nat → Desk Context → Desk Context × List Log.Event
  | 0, desk => (desk, [])
  | count + 1, desk =>
    match (desk.urgent? factory).bind desk.step with
    | none => (desk, [])
    | some (next, events) =>
      let (last, more) := runUrgent factory count next
      (last, events ++ more)

/-- Runs until everybody is served, parked or busy. -/
def settle (factory : Factory Context) (desk : Desk Context) :
    Desk Context × List Log.Event :=
  desk.runUrgent factory (8 * (desk.callers.length + desk.notices + 1))

/-- The parked caller whose time ends first. -/
def nextToExpire? (desk : Desk Context) : Option (Nat × Nat) :=
  let deadlines := desk.parked.filterMap fun caller =>
    (desk.callers[caller]?).map fun c => (caller, c.deadline)
  deadlines.foldl (fun best entry =>
    match best with
    | some (_, deadline) => if entry.2 < deadline then some entry else best
    | none => some entry) none

/-- Ends the wait of one caller. -/
def expire (factory : Factory Context) (desk : Desk Context) (caller : Nat) :
    Desk Context × List Log.Event :=
  match desk.step (.expire caller) with
  | some (expired, _) => expired.settle factory
  | none => (desk, [])

/-- Lets the time of up to `count` callers run out, as far as it ends by `time`. -/
def passUntil (factory : Factory Context) (time : Nat) :
    Nat → Desk Context → Desk Context × List Log.Event
  | 0, desk => (desk, [])
  | count + 1, desk =>
    match desk.nextToExpire? with
    | some (caller, deadline) =>
      if deadline ≤ time then
        let (expired, events) := desk.expire factory caller
        let (last, more) := passUntil factory time count expired
        (last, events ++ more)
      else (desk, [])
    | none => (desk, [])

/-- Does an action, and everything that follows from it at once. -/
def perform (factory : Factory Context) (desk : Desk Context) (action : Action Context) :
    Desk Context × List Log.Event :=
  match desk.step action with
  | some (next, events) =>
    let (last, more) := next.settle factory
    (last, events ++ more)
  | none => (desk, [])

/-- Serves a new caller who comes at some time. It is the last of the callers. -/
def ask (factory : Factory Context) (desk : Desk Context) (time millis : Nat) :
    Desk Context × List Log.Event :=
  let (asked, events) := desk.perform factory (.arrive time millis)
  let (last, more) := asked.passUntil factory time asked.callers.length
  (last, events ++ more)

/-- Waits until a caller has its answer. The last result is the time by then. -/
def await (factory : Factory Context) (desk : Desk Context) (time caller : Nat) :
    Desk Context × List Log.Event × Nat :=
  match desk.callers[caller]? with
  | some ⟨_, deadline, .parked⟩ =>
    let (last, events) := desk.passUntil factory deadline desk.callers.length
    (last, events, max time deadline)
  | _ => (desk, [], time)

end ServerRender.Pool.Desk
