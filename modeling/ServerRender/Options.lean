/-!
# Renderer options

How many contexts a pool may hold, how long a caller waits for one, and how much is
logged about a script that failed.
-/

namespace ServerRender

structure PoolOptions where
  /-- The largest number of contexts. -/
  size : UInt64
  /-- Seconds that a caller waits for a context. -/
  timeout : UInt64
  deriving DecidableEq, Inhabited

namespace PoolOptions

def defaults : PoolOptions :=
  ⟨10, 20⟩

def withSize (options : PoolOptions) (size : UInt64) : PoolOptions :=
  { options with size }

def withTimeout (options : PoolOptions) (timeout : UInt64) : PoolOptions :=
  { options with timeout }

/-- A pool needs room for one context. -/
def isValid (options : PoolOptions) : Bool :=
  options.size != 0

end PoolOptions

inductive RenderMode where
  /-- Each stack frame is logged with the source around it. -/
  | development
  /-- Only the message of the engine is logged. -/
  | production
  deriving DecidableEq, Inhabited

namespace RenderMode

def isDevelopment : RenderMode → Bool
  | development => true
  | production => false

def name : RenderMode → String
  | development => "development"
  | production => "production"

def ofName? : String → Option RenderMode
  | "development" => some development
  | "production" => some production
  | _ => none

end RenderMode

structure RendererConfig where
  pool : PoolOptions
  mode : RenderMode
  deriving DecidableEq, Inhabited

def RendererConfig.defaults : RendererConfig :=
  ⟨PoolOptions.defaults, .production⟩

end ServerRender
