/-!
# Stack frames

One call of a script that failed: where it was, and in which line and column of the
evaluated source, both counted from one.
-/

namespace ServerRender

structure StackFrame where
  /-- The name of a function, or of a source where there is no name. -/
  location : String
  line : UInt32
  column : Option UInt32
  deriving DecidableEq, Inhabited

namespace StackFrame

/-- The location and the numbers with colons between them. -/
def text (frame : StackFrame) : String :=
  match frame.column with
  | some column => s!"{frame.location}:{frame.line.toNat}:{column.toNat}"
  | none => s!"{frame.location}:{frame.line.toNat}"

end StackFrame

end ServerRender
