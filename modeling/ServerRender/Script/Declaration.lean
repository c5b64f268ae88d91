import ServerRender.Script.Expression

/-!
# Declared names

Which names targets and statements declare. A variable belongs to the whole function or
script, in whatever block it is declared; the other names belong to their block.
-/

namespace ServerRender.Script

mutual

/-- The names that a target gives values to. -/
def Target.names : Target → List String
  | .place (.identifier name) => [name]
  | .place _ => []
  | .list items => namesOfAll items
  | .record fields => namesOfAll fields
  | .field _ target => target.names
  | .default target _ => target.names
  | .rest target => target.names
  | .gap => []

def namesOfAll : List Target → List String
  | [] => []
  | target :: rest => target.names ++ namesOfAll rest

end

mutual

/-- The variables that statements declare, blocks included and functions not. -/
def variablesOf : List Command → List String
  | [] => []
  | command :: rest => command.varNames ++ variablesOf rest

def Command.varNames : Command → List String
  | .declare .variable target _ => target.names
  | .mention name => [name]
  | .block commands => variablesOf commands
  | .choose _ yes no => variablesOf yes ++ variablesOf no
  | .whileLoop _ body => variablesOf body
  | .doWhileLoop body _ => variablesOf body
  | .forLoop start _ _ body => variablesOf start ++ variablesOf body
  | .forEach _ binding target _ body =>
    (if binding = some .variable then target.names else []) ++ variablesOf body
  | .select _ clauses => variablesOfClauses clauses
  | .labelled _ body => variablesOf body
  | .attempt body _ handler => variablesOf body ++ variablesOf handler
  | .finally body finish => variablesOf body ++ variablesOf finish
  | .inside _ body => variablesOf body
  | _ => []

def variablesOfClauses : List Clause → List String
  | [] => []
  | clause :: rest => clause.varNames ++ variablesOfClauses rest

def Clause.varNames : Clause → List String
  | .case _ body => variablesOf body
  | .otherwise body => variablesOf body

end

/-- The functions that statements declare, the inner ones not. -/
def functionsOf (commands : List Command) : List Procedure :=
  commands.filterMap fun
    | .define procedure => some procedure
    | _ => none

/-- The statements of all clauses. -/
def commandsOf (clauses : List Clause) : List Command :=
  clauses.flatMap fun
    | .case _ body => body
    | .otherwise body => body

/-- The names that belong to a block of statements, and which of them are constant. -/
def localsOf (commands : List Command) : List (String × Bool) :=
  commands.flatMap fun
    | .declare .local target _ => target.names.map (·, false)
    | .declare .constant target _ => target.names.map (·, true)
    | .defineClass blueprint => [(blueprint.name, false)]
    | _ => []

/-- Whether a name that belongs to a block is declared twice or is also a variable. -/
def declaresTwice (commands : List Command) (others : List String) : Bool :=
  let locals := (localsOf commands).map (·.1)
  locals.length != locals.eraseDups.length || locals.any others.contains

/-- Whether a function, or a script, declares a name twice. -/
def clashes (commands : List Command) : Bool :=
  declaresTwice commands (variablesOf commands ++ (functionsOf commands).map Procedure.name)

end ServerRender.Script
