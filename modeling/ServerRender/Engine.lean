import ServerRender.EngineError
import ServerRender.Json.Basic
import ServerRender.Log

/-!
# Script engines

An engine makes fresh script environments, loads a script into one and evaluates
scripts there. What it does may depend on a world that all its environments share.
Every call says how it ended: with a value, with an error, or by a panic, after which
nothing can be said about any environment of its thread.
-/

namespace ServerRender

inductive Verdict (α : Type) where
  | value (result : α)
  | failure (error : EngineError)
  | panic

/-- The answer to a call on some state. -/
structure Reply (State Outcome : Type) where
  /-- What has to open before the call returns, in this order. -/
  gates : List String
  /-- The state once the call has returned. -/
  after : State
  /-- What was logged meanwhile. -/
  events : List Log.Event
  outcome : Outcome

namespace Reply

def map (f : State → State') (g : Outcome → Outcome') (reply : Reply State Outcome) :
    Reply State' Outcome' :=
  ⟨reply.gates, f reply.after, reply.events, g reply.outcome⟩

end Reply

structure Engine (World Environment : Type) where
  create : World → World × Verdict Environment
  load : World → Environment → String → World × Reply Environment (Verdict Unit)
  eval : World → Environment → String → World × Reply Environment (Verdict Json)
  /-- Whether a gate has opened. -/
  isOpen : World → String → Bool

end ServerRender
