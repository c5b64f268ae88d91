import ServerRender.StackFrame
import ServerRender.Text.Blank
import ServerRender.Text.Lines
import ServerRender.Text.Numeral
import ServerRender.Text.Split

/-!
# Stack traces

Script engines write a trace as text, one call a line, the latest call first. Two
forms are read: `at name (file:line:column)`, where the name and the column may be
missing, and `name@file:line:column`. A line of any other form, such as the message
on top, is passed over.
-/

namespace ServerRender.StackTrace

/-- The parts of `file:line:column` or `file:line`. A number before the last colon
counts as the line only if it is one. -/
def splitPosition? (position : List Char) : Option (List Char × UInt32 × Option UInt32) := do
  let (head, last) ← Text.splitLast? [':'] position
  let number ← Text.readUInt32? last
  let split : Option (List Char × UInt32) := do
    let (file, line) ← Text.splitLast? [':'] head
    return (file, ← Text.readUInt32? line)
  match split with
  | some (file, line) => return (file, line, some number)
  | none => return (head, number, none)

/-- The text of a line after `at `: a name in front of a position in parentheses, or
a position alone. -/
def splitCall (call : List Char) : Option (List Char) × List Char :=
  match Text.splitLast? ['('] call, call.getLast? with
  | some (name, position), some ')' => (some (Text.trim name), position.dropLast)
  | _, _ => (none, call)

/-- The name and the position that a line gives. -/
def splitLine? (line : List Char) : Option (Option (List Char) × List Char) :=
  match Text.afterStart? ['a', 't', ' '] line with
  | some call => some (splitCall call)
  | none => (Text.splitFirst? ['@'] line).map fun (name, position) => (some name, position)

/-- The frame of a line, if it has one. -/
def parseLine? (line : List Char) : Option StackFrame := do
  let (name, position) ← splitLine? (Text.trim line)
  let (file, number, column) ← splitPosition? position
  let location := match name with
    | some (c :: rest) => c :: rest
    | _ => file
  return ⟨String.ofList location, number, column⟩

/-- The frames of a trace in the order of its lines. -/
def parse (trace : String) : List StackFrame :=
  (Text.lines trace.toList).filterMap parseLine?

end ServerRender.StackTrace
