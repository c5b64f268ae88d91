import ServerRender.Proofs.Text.Cuts
import ServerRender.Proofs.Text.Numeral
import ServerRender.Proofs.Text.Trimming
import ServerRender.Script.Failure

/-!
# The position of a parse fault

A parse fault tells its position at the end of its message, and the message quotes the
script in front of it.  The script may thus write positions into the message, whole ones or
beginnings of them.  They do no harm: the note at the end is found behind whatever stands
before it, and whatever a message holds, the line of a frame is the number that it gives
behind its last mark of a line.
-/

namespace ServerRender

namespace Text

/-- A number with any blanks around it. -/
def Shows (text : List Char) (n : UInt32) : Prop :=
  ∃ core, Padded core text ∧ Denotes core n

theorem Denotes.trim_eq {text : List Char} {n : UInt32} (hdenotes : Denotes text n) :
    trim text = text := by
  obtain ⟨digits, hne, hdigit, -, htext⟩ := hdenotes
  have hblank : ∀ c ∈ text, isBlank c = false := by
    rcases htext with rfl | rfl
    · exact fun c hc => isBlank_of_isDigit (hdigit c hc)
    · rw [List.forall_mem_cons]
      exact ⟨by decide, fun c hc => isBlank_of_isDigit (hdigit c hc)⟩
  apply trim_eq_self
  · exact fun c hc => hblank c (List.mem_of_mem_head? hc)
  · exact fun c hc => hblank c (List.mem_of_mem_getLast? hc)

/-- What is read behind trimming is a number with blanks around it. -/
theorem readUInt32?_trim_eq_some_iff {text : List Char} {n : UInt32} :
    readUInt32? (trim text) = some n ↔ Shows text n := by
  rw [readUInt32?_eq_some_iff]
  constructor
  · exact fun hdenotes => ⟨trim text, exists_eq_append_trim text, hdenotes⟩
  · rintro ⟨core, hpadded, hdenotes⟩
    rwa [(padded_iff_trim_eq hdenotes.trim_eq).mp hpadded]

theorem shows_numeral (n : UInt32) : Shows (numeral n) n :=
  readUInt32?_trim_eq_some_iff.mp (by
    rw [(readUInt32?_eq_some_iff.mp (readUInt32?_numeral n)).trim_eq, readUInt32?_numeral])

end Text

namespace Script

open Text

def lineMark : List Char := " at line ".toList

def columnMark : List Char := ", col ".toList

def positionNote (line column : UInt32) : String :=
  " at line " ++ toString line.toNat ++ ", col " ++ toString column.toNat

/-- Where a message puts its fault: at the number behind its last mark of a line, up to the
first mark of a column behind it.  The column is the number that follows, if it is one. -/
structure PlacedBy (message : List Char) (frame : StackFrame) : Prop where
  location : frame.location = "<parse>"
  position : ∃ quoted position line column,
    LastCut lineMark message quoted position ∧ FirstCut columnMark position line column ∧
      Shows line frame.line ∧ ∀ n, frame.column = some n ↔ Shows column n

theorem parseFrame?_eq_some_iff (message : String) (frame : StackFrame) :
    parseFrame? message = some frame ↔ PlacedBy message.toList frame := by
  have hmark : " at line ".toList = lineMark := rfl
  have hcolumn : ", col ".toList = columnMark := rfl
  simp only [parseFrame?, hmark, hcolumn, Option.bind_eq_bind, Option.bind_eq_some_iff,
    Option.pure_def, Option.some.injEq, Prod.exists, splitLast?_eq_some_iff,
    splitFirst?_eq_some_iff, readUInt32?_trim_eq_some_iff]
  constructor
  · rintro ⟨quoted, position, hlast, line, column, hfirst, n, hline, rfl⟩
    exact ⟨rfl, quoted, position, line, column, hlast, hfirst, hline,
      fun n => readUInt32?_trim_eq_some_iff⟩
  · rintro ⟨hlocation, quoted, position, line, column, hlast, hfirst, hline, hcolumn⟩
    refine ⟨quoted, position, hlast, line, column, hfirst, frame.line, hline, ?_⟩
    have hread : readUInt32? (trim column) = frame.column := by
      apply Option.ext
      exact fun n => readUInt32?_trim_eq_some_iff.trans (hcolumn n).symm
    rw [hread, ← hlocation]

/-- No character of a position is the `a` of the mark of its line, so that the mark does not
come again behind its start. -/
theorem not_mem_position (line column : UInt32) :
    'a' ∉ "t line ".toList ++ (numeral line ++ columnMark ++ numeral column) := by
  have hline : 'a' ∉ numeral line := not_mem_numeral (by decide) line
  have hcolumn : 'a' ∉ numeral column := not_mem_numeral (by decide) column
  simp [hline, hcolumn, columnMark]

theorem placedBy_positionNote (quoted : String) (line column : UInt32) :
    PlacedBy (quoted ++ positionNote line column).toList ⟨"<parse>", line, some column⟩ where
  location := rfl
  position := by
    have hmessage : (quoted ++ positionNote line column).toList =
        quoted.toList ++ lineMark ++ (numeral line ++ columnMark ++ numeral column) := by
      simp only [positionNote, String.toList_append, List.append_assoc]
      rfl
    refine ⟨quoted.toList, numeral line ++ columnMark ++ numeral column, numeral line,
      numeral column, ?_, ?_, shows_numeral line, ?_⟩
    · rw [hmessage]
      exact lastCut_of_second (not_mem_position line column)
    · exact firstCut_of_not_mem (not_mem_numeral (by decide) line)
    · intro n
      rw [← readUInt32?_trim_eq_some_iff, readUInt32?_trim_eq_some_iff.mpr (shows_numeral column)]

/-- The position at the end of a message is read, whatever the message quotes before it.  And
a message has a frame exactly if it places its fault, and then this frame. -/
theorem position_is_last_written :
    (∀ (quoted : String) (line column : UInt32),
      parseFrame? (quoted ++ positionNote line column) = some ⟨"<parse>", line, some column⟩) ∧
    ∀ (message : String) (frame : StackFrame),
      parseFrame? message = some frame ↔ PlacedBy message.toList frame := by
  constructor
  · intro quoted line column
    exact (parseFrame?_eq_some_iff _ _).mpr (placedBy_positionNote quoted line column)
  · exact parseFrame?_eq_some_iff

/-- A quoted position, and the beginning of another one, are passed over. -/
example : parseFrame? "unexpected ' at line 9, col 9' at line  at line 12, col 5" =
    some ⟨"<parse>", 12, some 5⟩ := by decide

end Script

end ServerRender
