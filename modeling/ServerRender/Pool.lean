import ServerRender.RenderError

/-!
# The pool of contexts

A pool lends contexts, each to one caller at a time, and makes them as they are
needed, up to its size. A context counts as created from the moment a caller reserves
room for it until it is torn down. The transitions here are the critical sections:
whatever a caller does between two of them, others may act.
-/

namespace ServerRender

structure Pool (Context : Type) where
  size : Nat
  /-- The contexts nobody holds, the one released last in front. -/
  idle : List Context
  created : Nat
  nextId : Nat
  closed : Bool

namespace Pool

variable {Context : Type}

/-- What a caller finds who looks for a context. -/
inductive Found (Context : Type) where
  | shutDown
  | taken (context : Context)
  /-- Room for a new context, which the caller has to make under this number. -/
  | reserved (id : Nat)
  | full

def empty (size : Nat) : Pool Context :=
  ⟨size, [], 0, 0, false⟩

/-- A look for a context: an idle one, or room for another. -/
def look (pool : Pool Context) : Pool Context × Found Context :=
  if pool.closed then (pool, .shutDown)
  else match pool.idle with
    | context :: rest => ({ pool with idle := rest }, .taken context)
    | [] =>
      if pool.created < pool.size then
        ({ pool with created := pool.created + 1, nextId := pool.nextId + 1 },
          .reserved pool.nextId)
      else (pool, .full)

/-- The last look of a caller whose time is up: only an idle context will do. -/
def lastLook (pool : Pool Context) : Pool Context × Found Context :=
  if pool.closed then (pool, .shutDown)
  else match pool.idle with
    | context :: rest => ({ pool with idle := rest }, .taken context)
    | [] => (pool, .full)

/-- Gives up a reservation whose context could not be made. -/
def cancel (pool : Pool Context) : Pool Context :=
  { pool with created := pool.created - 1 }

/-- Takes a context back. A closed pool tears it down instead, which the second result
tells. -/
def release (pool : Pool Context) (context : Context) : Pool Context × Bool :=
  if pool.closed then ({ pool with created := pool.created - 1 }, true)
  else ({ pool with idle := context :: pool.idle }, false)

/-- Closes the pool. The second result holds the contexts to be torn down. -/
def shutdown (pool : Pool Context) : Pool Context × List Context :=
  if pool.closed then (pool, [])
  else
    ({ pool with closed := true, idle := [], created := pool.created - pool.idle.length }, pool.idle)

structure Status where
  size : Nat
  created : Nat
  idle : Nat
  inUse : Nat
  deriving DecidableEq

def status (pool : Pool Context) : Status :=
  ⟨pool.size, pool.created, pool.idle.length, pool.created - pool.idle.length⟩

end Pool

end ServerRender
