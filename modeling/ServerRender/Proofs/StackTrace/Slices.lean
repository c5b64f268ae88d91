import ServerRender.Proofs.StackTrace
import ServerRender.Proofs.Text.Lines
import ServerRender.Proofs.Text.Slices

/-!
# Traces of any text

A script may write any text into its trace.  The parser cuts it by bytes, and in one place it
takes a byte that it found in one text for a cut of a shorter one.  All the same it never cuts
outside of a text or within a character, so that it reads every text to its end.  The frames
are those of the lines, at most one for each, and so the frames of two texts with a line feed
between them are the frames of the one and then those of the other.
-/

namespace ServerRender.StackTrace

open Text

def splitPositionByBytes? (position : List Char) :
    Option (Option (List Char × UInt32 × Option UInt32)) := do
  match ← around? ':' position (lastByte? ':' position) with
  | none => return none
  | some (head, last) =>
    match readUInt32? last with
    | none => return none
    | some number =>
      match ← around? ':' head (lastByte? ':' head) with
      | none => return some (head, number, none)
      | some (file, line) =>
        match readUInt32? line with
        | some line => return some (file, line, some number)
        | none => return some (head, number, none)

/-- The parts of a call.  The byte of the opening parenthesis is found in the whole call, and
the position is cut off there from the call without its closing one. -/
def splitCallByBytes? (call : List Char) : Option (Option (List Char) × List Char) := do
  match lastByte? '(' call, ← withoutLast? ')' call with
  | some start, some inner =>
    return (some (trim (← sliceTo? start call)), ← sliceFrom? (start + 1) inner)
  | _, _ => return (none, call)

def splitLineByBytes? (line : List Char) :
    Option (Option (Option (List Char) × List Char)) := do
  match ← withoutStart? ['a', 't', ' '] line with
  | some call => return some (← splitCallByBytes? call)
  | none =>
    return (← around? '@' line (firstByte? '@' line)).map fun (name, position) =>
      (some name, position)

def parseLineByBytes? (line : List Char) : Option (Option StackFrame) := do
  match ← splitLineByBytes? (trim line) with
  | none => return none
  | some (name, position) =>
    match ← splitPositionByBytes? position with
    | none => return none
    | some (file, number, column) =>
      let location := match name with
        | some (c :: rest) => c :: rest
        | _ => file
      return some ⟨String.ofList location, number, column⟩

/-- The frames of a trace, and nothing at all if a slice of it is not there. -/
def parseByBytes? (trace : String) : Option (List StackFrame) :=
  (lines trace.toList).filterMapM parseLineByBytes?

theorem splitPositionByBytes?_eq (position : List Char) :
    splitPositionByBytes? position = some (splitPosition? position) := by
  rw [splitPositionByBytes?, splitPosition?, around?_lastByte?]
  cases splitLast? [':'] position with
  | none => rfl
  | some parts =>
    obtain ⟨head, last⟩ := parts
    cases hnumber : readUInt32? last with
    | none => simp [hnumber]
    | some number =>
      simp only [Option.bind_eq_bind, Option.bind_some, around?_lastByte?, hnumber]
      cases splitLast? [':'] head with
      | none => rfl
      | some parts =>
        cases hline : readUInt32? parts.2 with
        | none => simp [hline]
        | some line => simp [hline]

/-- The opening parenthesis of a call stands before the closing one at its end, so that the
call without the latter still goes on behind the former. -/
theorem exists_inner {call name position : List Char}
    (hopen : splitLast? ['('] call = some (name, position)) (hclose : call.getLast? = some ')') :
    ∃ inner, position = inner ++ [')'] ∧ call = name ++ ['('] ++ inner ++ [')'] := by
  obtain rfl := eq_of_splitLast? hopen
  have hne : position ≠ [] := by
    rintro rfl
    rw [List.append_nil, List.getLast?_concat] at hclose
    contradiction
  rw [List.getLast?_append_of_ne_nil _ hne] at hclose
  obtain ⟨inner, rfl⟩ := List.getLast?_eq_some_iff.mp hclose
  exact ⟨inner, rfl, by simp⟩

/-- The byte behind the last opening parenthesis is one at which the text without its closing
parenthesis may be cut, although it was found in the longer text. -/
theorem isValid_behind_open {inner : List Char} {start : Nat}
    (hopen : lastByte? '(' (inner ++ [')']) = some start) :
    String.Pos.Raw.IsValid (String.ofList inner) ⟨start + 1⟩ := by
  rw [lastByte?_eq, Option.map_eq_some_iff] at hopen
  obtain ⟨⟨name, position⟩, hsplit, rfl⟩ := hopen
  obtain ⟨rest, -, hcall⟩ := exists_inner hsplit List.getLast?_concat
  have hinner : inner = (name ++ ['(']) ++ rest := List.append_cancel_right hcall
  have hsize : byteSize name + 1 = byteSize (name ++ ['(']) := by
    rw [byteSize_append]
    rfl
  rw [← isSome_cutAtByte?_iff, hsize, hinner, cutAtByte?_append]
  rfl

theorem splitCallByBytes?_eq (call : List Char) :
    splitCallByBytes? call = some (splitCall call) := by
  rw [splitCallByBytes?, splitCall, lastByte?_eq]
  by_cases hclose : call.getLast? = some ')'
  · cases hopen : splitLast? ['('] call with
    | none =>
      obtain ⟨front, rfl⟩ := List.getLast?_eq_some_iff.mp hclose
      rw [withoutLast?_append]
      rfl
    | some parts =>
      obtain ⟨name, position⟩ := parts
      obtain ⟨inner, rfl, rfl⟩ := exists_inner hopen hclose
      have hsize : byteSize name + 1 = byteSize (name ++ ['(']) := by
        rw [byteSize_append]
        rfl
      have hname : sliceTo? (byteSize name) (name ++ ['('] ++ inner ++ [')']) = some name := by
        rw [List.append_assoc, List.append_assoc, sliceTo?_append]
      have hposition : sliceFrom? (byteSize name + 1) (name ++ ['('] ++ inner) = some inner := by
        rw [hsize, sliceFrom?_append]
      rw [withoutLast?_append, hclose]
      simp only [Option.map_some, Option.bind_eq_bind, Option.bind_some, hname, hposition,
        List.dropLast_concat]
      rfl
  · rw [withoutLast?_of_ne hclose]
    cases splitLast? ['('] call with
    | none => rfl
    | some parts =>
      simp only [Option.map_some, Option.bind_eq_bind, Option.bind_some]
      split
      · next hlast => exact absurd hlast hclose
      · rfl

theorem splitLineByBytes?_eq (line : List Char) :
    splitLineByBytes? line = some (splitLine? line) := by
  rw [splitLineByBytes?, splitLine?, withoutStart?_eq]
  cases afterStart? ['a', 't', ' '] line with
  | none => simp [around?_firstByte?]
  | some call => simp [splitCallByBytes?_eq]

theorem parseLineByBytes?_eq (line : List Char) :
    parseLineByBytes? line = some (parseLine? line) := by
  rw [parseLineByBytes?, parseLine?, splitLineByBytes?_eq]
  cases splitLine? (trim line) with
  | none => rfl
  | some parts =>
    simp only [Option.bind_eq_bind, Option.bind_some, splitPositionByBytes?_eq]
    cases splitPosition? parts.2 <;> rfl

theorem filterMapM_parseLineByBytes? (texts : List (List Char)) :
    texts.filterMapM parseLineByBytes? = some (texts.filterMap parseLine?) := by
  induction texts with
  | nil => rfl
  | cons line rest ih =>
    rw [List.filterMapM_cons, parseLineByBytes?_eq, ih, List.filterMap_cons]
    cases parseLine? line <;> rfl

/-- Every slice on the way through a text is there. -/
theorem parseByBytes?_eq (trace : String) : parseByBytes? trace = some (parse trace) :=
  filterMapM_parseLineByBytes? (lines trace.toList)

theorem parse_ofList_of_not_mem {line : List Char} (hline : '\n' ∉ line) :
    parse (String.ofList line) = (parseLine? line).toList := by
  rw [parse, String.toList_ofList, lines_of_not_mem hline]
  cases line with
  | nil => rfl
  | cons c rest =>
    rw [List.isEmpty_cons, if_neg Bool.false_ne_true, List.filterMap_cons]
    cases parseLine? (c :: rest) <;> rfl

/-- The frames of a trace are those of its lines, one after the other. -/
theorem parse_eq_flatMap (trace : String) :
    parse trace = (lines trace.toList).flatMap fun line => parse (String.ofList line) := by
  rw [parse, List.filterMap_eq_flatMap_toList]
  exact List.flatMap_congr fun line hline =>
    (parse_ofList_of_not_mem (not_mem_of_mem_lines hline)).symm

/-- What belongs to the end of a line is no matter for its frame, so that the pieces between
the line feeds have the frames of the lines. -/
theorem filterMap_lines (text : List Char) :
    (lines text).filterMap parseLine? = (text.splitOn '\n').filterMap parseLine? := by
  induction text using feedInduction with
  | last line hline =>
    rw [lines_of_not_mem hline, List.splitOn_eq_singleton hline]
    cases line <;> rfl
  | feed line rest hline ih =>
    rw [lines_append_feed hline, List.splitOn_append_cons_self, List.splitOn_eq_singleton hline,
      List.singleton_append, List.filterMap_cons, List.filterMap_cons, parseLine?_dropReturn, ih]

/-- A line feed between two texts ends the last line of the first, and nothing else. -/
theorem parse_append_feed_append (first second : String) :
    parse (first ++ "\n" ++ second) = parse first ++ parse second := by
  have htext : (first ++ "\n" ++ second).toList = first.toList ++ '\n' :: second.toList := by
    simp
  rw [parse, parse, parse, filterMap_lines, filterMap_lines, filterMap_lines, htext,
    List.splitOn_append_cons_self, List.filterMap_append]

/-- Parsing a trace never cuts a text where it cannot be cut, and in particular not behind an
opening parenthesis that it found in a longer one.  It gives the frames of the lines in their
order and at most one for each, and those of two texts with a line feed between them are the
frames of the first and then of the second. -/
theorem parsing_is_safe :
    (∀ trace, parseByBytes? trace = some (parse trace)) ∧
    (∀ (inner : List Char) (start : Nat), lastByte? '(' (inner ++ [')']) = some start →
      String.Pos.Raw.IsValid (String.ofList inner) ⟨start + 1⟩) ∧
    (∀ trace : String,
      (parse trace = (splitLines trace.toList).flatMap fun line => parse (String.ofList line)) ∧
      ∀ line ∈ splitLines trace.toList, (parse (String.ofList line)).length ≤ 1) ∧
    ∀ first second : String, parse (first ++ "\n" ++ second) = parse first ++ parse second := by
  refine ⟨parseByBytes?_eq, fun _ _ => isValid_behind_open, fun trace => ?_,
    parse_append_feed_append⟩
  rw [← lines_eq_splitLines]
  refine ⟨parse_eq_flatMap trace, fun line hline => ?_⟩
  rw [parse_ofList_of_not_mem (not_mem_of_mem_lines hline)]
  exact Option.length_toList_le

/-- The parentheses of a line in the wrong order, one that is alone, and characters of several
bytes before the one that counts. -/
def strangeTrace : String :=
  "at )(\nat (\nat é (é(é:1:2)\r\n@é:ü:3"

theorem parse_strangeTrace :
    parseByBytes? strangeTrace = some [⟨"é (é", 1, some 2⟩, ⟨"é:ü", 3, none⟩] ∧
    String.Pos.Raw.IsValid "é (é(é:1:2" ⟨7⟩ ∧
    (parse "at é (é(é:1:2)").length ≤ 1 := by
  have hparse : parse strangeTrace = [⟨"é (é", 1, some 2⟩, ⟨"é:ü", 3, none⟩] := by
    decide +kernel
  refine ⟨?_, ?_, ?_⟩
  · rw [parsing_is_safe.1, hparse]
  · exact parsing_is_safe.2.1 "é (é(é:1:2".toList 6 (by decide)
  · exact (parsing_is_safe.2.2.1 strangeTrace).2 "at é (é(é:1:2)".toList (by decide +kernel)

end ServerRender.StackTrace
