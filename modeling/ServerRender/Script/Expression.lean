import ServerRender.Decimal.Double
import ServerRender.Script.Fault

/-!
# Expressions and statements

Scripts as trees: literals, objects with accessors, operators, functions, classes and
calls, targets that take values apart, and statements. A few expressions have no
written form; they make objects that refer to each other.
-/

namespace ServerRender.Script

/-- What an entry of an object literal, or a member of a class, makes. -/
inductive Role where
  | value
  /-- A function under its own name. -/
  | method
  | getter
  | setter
  /-- An accessor that gives the value. -/
  | giver
  /-- An accessor that throws the value. -/
  | thrower
  /-- A property that no listing shows. -/
  | hidden
  /-- The object that the new one inherits from, if the value is one. -/
  | parent
  /-- The properties of the value. -/
  | copied
  /-- Statements that are run when a class is made. -/
  | block
  /-- A name with a value to take instead of undefined, which only a target has. -/
  | pending
  deriving DecidableEq, Inhabited

inductive Prefix where
  | negate
  | number
  | not
  | complement
  | kind
  | nothing
  | delete
  deriving DecidableEq, Inhabited

inductive Operator where
  | add
  | subtract
  | multiply
  | divide
  | remainder
  | power
  | less
  | greater
  | lessOrEqual
  | greaterOrEqual
  | equal
  | notEqual
  | same
  | notSame
  | bitAnd
  | bitOr
  | bitXor
  | shiftLeft
  | shiftRight
  | shiftRightUnsigned
  | contains
  | instanceOf
  | sequence
  deriving DecidableEq, Inhabited

/-- Operators that may leave their right operand alone. -/
inductive Connective where
  | both
  | either
  | fallback
  deriving DecidableEq, Inhabited

/-- How the value of a variable may change. -/
inductive Binding where
  | variable
  /-- Belongs to its block and has no value before its declaration. -/
  | local
  | constant
  deriving DecidableEq, Inhabited

/-- How a function is called and what its calls give. -/
structure Manner where
  /-- Keeps the `this` of the place where it stands. -/
  isArrow : Bool
  /-- Cannot be used behind `new`. -/
  isMethod : Bool
  isAsync : Bool
  isGenerator : Bool
  isStrict : Bool
  /-- Whether its name means the function where it runs. -/
  knowsName : Bool
  deriving DecidableEq, Inhabited

namespace Manner

def plain : Manner :=
  ⟨false, false, false, false, false, false⟩

def arrow : Manner :=
  { plain with isArrow := true }

/-- Whether a function can make objects. -/
def constructs (manner : Manner) : Bool :=
  !(manner.isArrow || manner.isMethod || manner.isAsync || manner.isGenerator)

end Manner

/-- Which values a loop takes from what it runs over. -/
inductive Range where
  | keys
  | items
  /-- Items that are waited for. -/
  | awaited
  deriving DecidableEq, Inhabited

mutual

inductive Expression where
  | undefined
  | null
  | bool (value : Bool)
  | number (value : Double)
  | bigint (value : Int)
  | text (units : List UInt16)
  /-- A new symbol. -/
  | symbol (description : String)
  | pattern (body flags : String)
  /-- Texts with values between them. -/
  | template (texts : List (List UInt16)) (values : List Expression)
  /-- A call with the texts of a template, as they read and as they are written, and
  its values. -/
  | tagged (tag : Expression) (texts : List (Option (List UInt16) × List UInt16))
      (values : List Expression)
  /-- The place of an array item that is missing. -/
  | hole
  /-- The items of an object in a list of items or arguments. -/
  | spread (items : Expression)
  | array (items : List Expression)
  /-- An array of so many missing items. -/
  | holes (count : Nat)
  | object (entries : List Entry)
  /-- The object, after its literal is made, inherits from the value. -/
  | inheriting (object parent : Expression)
  /-- The object with more properties, which can refer to it. -/
  | extended (object : Expression) (entries : List Entry)
  /-- An object around this expression, the nearest one first. -/
  | enclosing (up : Nat)
  /-- The same value at every occurrence of the name in an expression. -/
  | shared (name : String) (value : Expression)
  /-- An expression on its own: the names of its shared values mean nothing outside. -/
  | apart (value : Expression)
  /-- The value in so many arrays of one item, or objects of one property `k`. -/
  | nested (count : Nat) (inObjects : Bool) (value : Expression)
  | this
  | newTarget
  | identifier (name : String)
  | member (base key : Expression)
  /-- A private name as the key of a member. -/
  | secret (name : String)
  | superMember (key : Expression)
  | call (callee : Expression) (arguments : List Expression)
  | superCall (arguments : List Expression)
  /-- Members and calls that are given up at a link that starts at undefined or null. -/
  | chain (links : Expression)
  /-- Gives the chain up where the value is undefined or null. -/
  | link (base : Expression)
  | construct (callee : Expression) (arguments : List Expression)
  | unary (operator : Prefix) (operand : Expression)
  | binary (operator : Operator) (left right : Expression)
  | connect (connective : Connective) (left right : Expression)
  | choose (condition yes no : Expression)
  | assign (target : Target) (value : Expression)
  | compound (operator : Operator) (place value : Expression)
  | connectAssign (connective : Connective) (place value : Expression)
  /-- One more or one less; the value is the number afterwards or before. -/
  | step (isAfterwards : Bool) (operator : Operator) (place : Expression)
  | closure (procedure : Procedure)
  | classDefinition (blueprint : Blueprint)
  | await (value : Expression)
  | yield (all : Bool) (value : Expression)
  /-- A module by its name. -/
  | importModule (name : Expression)
  /-- Parentheses, which keep a name from being given to a function. -/
  | parenthesized (inner : Expression)

/-- An entry of an object literal or a member of a class; one of the class itself is
marked. -/
inductive Entry where
  | mk (ofClass : Bool) (role : Role) (key value : Expression)

/-- What takes a value: a place, or places for its parts. -/
inductive Target where
  | place (expression : Expression)
  | list (items : List Target)
  | record (fields : List Target)
  /-- Takes the property with a key. -/
  | field (key : Expression) (target : Target)
  /-- Takes another value instead of undefined. -/
  | default (target : Target) (value : Expression)
  /-- Takes all that is left. -/
  | rest (target : Target)
  /-- Takes an item and drops it. -/
  | gap

inductive Command where
  | evaluate (expression : Expression)
  | throws (expression : Expression)
  /-- An operation that fails with an error of the engine. -/
  | fails (error : NativeError)
  | returns (expression : Expression)
  | declare (binding : Binding) (target : Target) (value : Expression)
  /-- A variable without a value; the declaration does nothing when it is run. -/
  | mention (name : String)
  /-- A declared function, which is there before the first statement is run. -/
  | define (procedure : Procedure)
  | defineClass (blueprint : Blueprint)
  | block (commands : List Command)
  | choose (condition : Expression) (yes no : List Command)
  | whileLoop (condition : Expression) (body : List Command)
  | doWhileLoop (body : List Command) (condition : Expression)
  | forLoop (start : List Command) (condition step : Expression) (body : List Command)
  | forEach (range : Range) (binding : Option Binding) (target : Target) (subject : Expression)
      (body : List Command)
  | select (value : Expression) (clauses : List Clause)
  | breaks (label : Option String)
  | continues (label : Option String)
  | labelled (label : String) (body : List Command)
  /-- Runs the handler with what the body throws. -/
  | attempt (body : List Command) (target : Target) (handler : List Command)
  /-- Runs the end, however the body ends. -/
  | finally (body finish : List Command)
  /-- Runs statements to which the properties of an object are variables. -/
  | inside (object : Expression) (body : List Command)

/-- A clause of a selection; without a condition it is for all other values. -/
inductive Clause where
  | case (value : Expression) (body : List Command)
  | otherwise (body : List Command)

inductive Procedure where
  | mk (name : String) (manner : Manner) (parameters : List Target) (body : List Command)

/-- A class with its constructor and its members. -/
inductive Blueprint where
  | base (name : String) (maker : Procedure) (members : List Entry)
  | derived (name : String) (parent : Expression) (maker : Procedure) (members : List Entry)

end

instance : Inhabited Expression := ⟨.null⟩

instance : Inhabited Target := ⟨.gap⟩

instance : Inhabited Procedure := ⟨.mk "" .plain [] []⟩

instance : Inhabited Blueprint := ⟨.base "" default []⟩

instance : Inhabited Command := ⟨.evaluate .null⟩

namespace Procedure

def name : Procedure → String
  | mk name _ _ _ => name

def manner : Procedure → Manner
  | mk _ manner _ _ => manner

def parameters : Procedure → List Target
  | mk _ _ parameters _ => parameters

def body : Procedure → List Command
  | mk _ _ _ body => body

def named (name : String) : Procedure → Procedure
  | mk _ manner parameters body => mk name manner parameters body

/-- How many arguments a function asks for: the parameters in front of the first with a
default. -/
def length (procedure : Procedure) : Nat :=
  (procedure.parameters.takeWhile fun
    | .default _ _ => false
    | .rest _ => false
    | _ => true).length

end Procedure

namespace Blueprint

def name : Blueprint → String
  | base name _ _ => name
  | derived name _ _ _ => name

def named (name : String) : Blueprint → Blueprint
  | base _ maker members => base name maker members
  | derived _ parent maker members => derived name parent maker members

end Blueprint

/-- A script that has been read, or the error that keeps it from running. -/
abbrev Program := Except NativeError (List Command)

end ServerRender.Script
