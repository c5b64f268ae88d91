import ServerRender.Script.Library.Buffers
import ServerRender.Script.Library.Collections
import ServerRender.Script.Library.Dates
import ServerRender.Script.Library.Errors
import ServerRender.Script.Library.Globals
import ServerRender.Script.Library.Iterators
import ServerRender.Script.Library.Json
import ServerRender.Script.Library.Promises
import ServerRender.Script.Library.Reflection
import ServerRender.Script.Library.Texts

/-!
# The library of the language

All classes and namespaces that every script finds. A function of the library is named
by what it belongs to and its name there; this is how its code is found.
-/

namespace ServerRender.Script

namespace Class

/-- The classes that are globals and inherit from no other class. -/
def plain : List Class :=
  [object, function, array, proxy, string, number, boolean, symbol, bigint, date, regexp, map, set,
    weakMap, weakSet, weakRef, buffer false, buffer true, dataView, promise]

/-- The classes of errors that inherit from the first one. -/
def errors : List Class :=
  (errorClasses.drop 1).map error

/-- The classes of typed arrays. -/
def itemLists : List Class :=
  itemClasses.map fun entry => items entry.2

def all : List Class :=
  plain ++ [error "Error", typedArray] ++ errors ++ itemLists

/-- The name of the functions that the objects of a class have. -/
def methodOwner (which : Class) : String :=
  which.name ++ ".prototype"

end Class

namespace Namespace

/-- The namespaces that are globals. -/
def all : List Namespace :=
  [math, json, reflect, atomics]

end Namespace

/-- The functions of members that belong to something, by their full names. -/
def namedFunctions (owner : String) (members : List Member) : List (String × Native) :=
  members.flatMap fun member => member.functions.map fun (name, code) =>
    (owner ++ "/" ++ name, code)

/-- The constructors, by the names of their classes. -/
def constructors : Std.TreeMap String Class :=
  .ofList (Class.all.map fun which => (which.name, which))

/-- The functions of the library but for constructors. -/
def libraryFunctions : Std.TreeMap String Native :=
  .ofList (
    (Class.all.flatMap fun which =>
      namedFunctions which.name which.statics ++ namedFunctions which.methodOwner which.methods)
    ++ (Namespace.all ++ Namespace.iterators).flatMap
      (fun space => namedFunctions space.name space.members)
    ++ namedFunctions "" Namespace.globals.members)

/-- The name that the behaviour of every constructor has. -/
def constructorName : String := "constructor"

namespace Run

/-- Calls a function of the library. -/
def callLibrary (owner name : String) : Native := fun this arguments => do
  if name == constructorName then
    match constructors.get? owner with
    | some which => which.call this arguments
    | none => throwNative .notCallable
  else
    match libraryFunctions.get? (owner ++ "/" ++ name) with
    | some code => code this arguments
    | none => return .undefined

/-- Makes an object with a constructor of the library. -/
def constructLibrary (owner : String) : Making := fun arguments target => do
  match (constructors.get? owner).bind Class.making with
  | some making => making arguments target
  | none => throwNative .notConstructor

end Run

end ServerRender.Script
