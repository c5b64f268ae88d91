/-!
# Code bundles

The script that an engine loads for a component: a prelude with stand-ins for what
only browsers have, the core library, and the code of the component itself.
-/

namespace ServerRender

structure CodeBundle where
  component : String
  source : String
  /-- Grows with every bundle that a cache publishes. -/
  generation : Nat
  deriving DecidableEq, Inhabited

namespace CodeBundle

/-- The name under which a registry holds the core library. -/
def coreComponent : String := "Core"

/-- The globals that component code may touch. -/
def browserPrelude : String :=
  "var global = global || this;\n" ++
  "var self = self || this;\n" ++
  "var window = window || this;\n" ++
  "\n" ++
  "function setTimeout(fn, ms) \x7b\n" ++
  "  fn();\n" ++
  "  return 0;\n" ++
  "\x7d\n" ++
  "function clearTimeout() \x7b\x7d\n" ++
  "\n" ++
  "var localStorage = \x7b\x7d;\n" ++
  "var document = \x7b\x7d;\n" ++
  "\n" ++
  "var console = global.console || \x7b\x7d;\n" ++
  "['error', 'log', 'info', 'warn'].forEach(function (fn) \x7b\n" ++
  "  if (!(fn in console)) \x7b\n" ++
  "    console[fn] = function () \x7b\x7d;\n" ++
  "  \x7d\n" ++
  "\x7d);\n"

/-- Puts prelude, core library and component source together. -/
def assemble (component core source : String) (generation : Nat) : CodeBundle where
  component := component
  source := browserPrelude ++ "\n" ++ core ++ ";\n" ++ source ++ ";\n"
  generation := generation

end CodeBundle

end ServerRender
