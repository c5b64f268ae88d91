import ServerRender.Log
import ServerRender.Pool

/-!
# Callers of a pool

Any number of callers ask a pool for a context, hold it for a while and give it back.
A caller who finds the pool full parks. What wakes it is a notice, which follows a
release or a failed attempt to make a context, the announcement that follows a
shutdown, the end of its time, or nothing at all. Each action is one step of one
caller, and all orders of actions are possible.
-/

namespace ServerRender.Pool

variable {Context : Type}

inductive Phase (Context : Type) where
  /-- About to look for a context. -/
  | looking
  | parked
  /-- Its time is up; about to look once more. -/
  | timedOut
  /-- Making the context of this number outside the pool. -/
  | building (id : Nat)
  | holding (context : Context)
  | refused (error : RenderError)
  /-- Has given its context back. -/
  | returned

structure Caller (Context : Type) where
  /-- How long it waits. -/
  millis : Nat
  /-- The time at which it stops waiting. -/
  deadline : Nat
  phase : Phase Context

structure Desk (Context : Type) where
  pool : Pool Context
  /-- All callers so far, in the order in which they came. -/
  callers : List (Caller Context)
  /-- Notices that have not reached a parked caller yet. -/
  notices : Nat
  /-- Whether a shutdown has still to be announced. -/
  closing : Bool

inductive Action (Context : Type) where
  | arrive (time millis : Nat)
  | look (caller : Nat)
  | build (caller : Nat) (made : Except RenderError Context)
  /-- A notice reaches a parked caller, or nobody if nobody is parked. -/
  | notify (caller : Option Nat)
  | announce
  | expire (caller : Nat)
  /-- A parked caller wakes without a reason. -/
  | wake (caller : Nat)
  | release (caller : Nat)
  | shutdown

namespace Phase

def isParked : Phase Context → Bool
  | parked => true
  | _ => false

def context? : Phase Context → Option Context
  | holding context => some context
  | _ => none

/-- A parked caller becomes one that looks again. -/
def woken : Phase Context → Phase Context
  | parked => looking
  | phase => phase

end Phase

namespace Desk

def create (size : Nat) : Desk Context :=
  ⟨Pool.empty size, [], 0, false⟩

/-- A new pool with the given options, which are looked at once more. -/
def ofOptions (options : PoolOptions) : Except RenderError (Desk Context) := do
  options.validate
  return create options.size.toNat

def phase? (desk : Desk Context) (caller : Nat) : Option (Phase Context) :=
  (desk.callers[caller]?).map Caller.phase

def setPhase (desk : Desk Context) (caller : Nat) (phase : Phase Context) : Desk Context :=
  { desk with callers := desk.callers.modify caller fun c => { c with phase } }

/-- The callers who are parked, by position. -/
def parked (desk : Desk Context) : List Nat :=
  (List.range desk.callers.length).filter fun caller =>
    (desk.phase? caller).any Phase.isParked

/-- The contexts that callers hold. -/
def held (desk : Desk Context) : List Context :=
  desk.callers.filterMap fun caller => caller.phase.context?

/-- All contexts that exist. -/
def contexts (desk : Desk Context) : List Context :=
  desk.pool.idle ++ desk.held

/-- The phase after a look, and what is logged; `last` says that the time was up. -/
def phaseAfterLook (size millis : Nat) (last : Bool) :
    Found Context → Phase Context × List Log.Event
  | .shutDown => (.refused .poolShutdown, [])
  | .taken context => (.holding context, [])
  | .reserved id => (.building id, [])
  | .full =>
    if last then (.refused (.exhaustedAfter millis), [.poolExhausted size millis])
    else (.parked, [])

def lookStep (desk : Desk Context) (caller millis : Nat) (last : Bool)
    (result : Pool Context × Found Context) : Desk Context × List Log.Event :=
  let (phase, events) := phaseAfterLook desk.pool.size millis last result.2
  ({ desk with pool := result.1 }.setPhase caller phase, events)

/-- A new caller comes, who will stop waiting at the deadline. -/
def arrive (desk : Desk Context) (time millis : Nat) : Desk Context :=
  { desk with callers := desk.callers ++ [⟨millis, time + millis, .looking⟩] }

/-- Closes the pool. -/
def shutdown (desk : Desk Context) : Desk Context :=
  { desk with pool := desk.pool.shutdown.1, closing := !desk.pool.closed || desk.closing }

/-- Changes the context that a caller holds. -/
def updateHeld (desk : Desk Context) (caller : Nat) (context : Context) : Desk Context :=
  match desk.phase? caller with
  | some (.holding _) => desk.setPhase caller (.holding context)
  | _ => desk

/-- One step; `none` if the action is not possible now. -/
def step (desk : Desk Context) : Action Context → Option (Desk Context × List Log.Event)
  | .arrive time millis => some (desk.arrive time millis, [])
  | .look caller =>
    match desk.callers[caller]? with
    | some ⟨millis, _, .looking⟩ => some (desk.lookStep caller millis false desk.pool.look)
    | some ⟨millis, _, .timedOut⟩ => some (desk.lookStep caller millis true desk.pool.lastLook)
    | _ => none
  | .build caller made =>
    match desk.phase? caller, made with
    | some (.building _), .ok context => some (desk.setPhase caller (.holding context), [])
    | some (.building id), .error error =>
      some ({ desk with pool := desk.pool.cancel, notices := desk.notices + 1 }.setPhase
        caller (.refused error), [.contextFailed id error.message])
    | _, _ => none
  | .notify none =>
    if desk.notices = 0 || !desk.parked.isEmpty then none
    else some ({ desk with notices := desk.notices - 1 }, [])
  | .notify (some caller) =>
    match desk.notices, desk.phase? caller with
    | notices + 1, some .parked => some ({ desk with notices }.setPhase caller .looking, [])
    | _, _ => none
  | .announce =>
    if desk.closing then
      some ({ desk with
        closing := false
        callers := desk.callers.map fun c => { c with phase := c.phase.woken } }, [])
    else none
  | .expire caller =>
    match desk.phase? caller with
    | some .parked => some (desk.setPhase caller .timedOut, [])
    | _ => none
  | .wake caller =>
    match desk.phase? caller with
    | some .parked => some (desk.setPhase caller .looking, [])
    | _ => none
  | .release caller =>
    match desk.phase? caller with
    | some (.holding context) =>
      let (pool, tornDown) := desk.pool.release context
      some ({ desk with
        pool
        notices := if tornDown then desk.notices else desk.notices + 1 }.setPhase
          caller .returned, [])
    | _ => none
  | .shutdown => some (desk.shutdown, [])

end Desk

end ServerRender.Pool
