import ServerRender.Text.Lines
import ServerRender.Text.Numeral

/-!
# Source windows

The lines of a source around one of them, numbered from one. The line itself carries
a mark, and there are up to three more on each side.
-/

namespace ServerRender.SourceWindow

/-- How many lines stand on each side. -/
def contextLines : Nat := 3

/-- One row: the mark, the number in a column of `width` characters, and the line. -/
def row (width target number : Nat) (line : List Char) : String :=
  (if number = target then ">>" else "  ") ++ " " ++ Text.padLeft width (toString number)
    ++ " | " ++ String.ofList line ++ "\n"

/-- The rows of consecutive lines, the first of which has the given number. -/
def rows (width target : Nat) : Nat → List (List Char) → List String
  | _, [] => []
  | number, line :: rest => row width target number line :: rows width target (number + 1) rest

/-- The window of the line numbered `line`, if the source has such a line. -/
def render? (source : String) (line : UInt32) : Option String :=
  let lines := Text.lines source.toList
  let target := line.toNat
  if target = 0 || lines.length < target then none
  else
    let first := max 1 (target - contextLines)
    let last := min lines.length (target + contextLines)
    let shown := (lines.drop (first - 1)).take (last + 1 - first)
    let width := (toString last).length
    some (s!"<lines {first} through {last}>:\n" ++ String.join (rows width target first shown))

end ServerRender.SourceWindow
