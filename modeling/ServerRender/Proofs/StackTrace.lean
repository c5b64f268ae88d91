import Mathlib.Tactic.MkIffOfInductiveProp
import ServerRender.Proofs.Text.Cuts
import ServerRender.Proofs.Text.Numeral
import ServerRender.Proofs.Text.Trimming
import ServerRender.StackTrace

/-!
# Traces as they are written

A frame is written in one of three forms, and the parser tells them apart by looking for
some separators from the left and for others from the right.  Each search finds the
separator that the form put there: what follows a separator that is sought from the right
cannot hold it, and neither can what stands before one that is sought from the left.  A
line is therefore read as the frame that it was written for, and a trace as its frames in
their order.
-/

namespace ServerRender.StackTrace

open Text

def writePosition (file : List Char) (line : UInt32) : Option UInt32 → List Char
  | some column => file ++ ':' :: numeral line ++ ':' :: numeral column
  | none => file ++ ':' :: numeral line

/-- The file does not end in a number that could be taken for the line. -/
def Unnumbered (file : List Char) : Prop :=
  ∀ before after, LastCut [':'] file before after → readUInt32? after = none

theorem unnumbered_iff {file : List Char} :
    Unnumbered file ↔ (splitLast? [':'] file).bind (fun parts => readUInt32? parts.2) = none := by
  simp only [Unnumbered, ← splitLast?_eq_some_iff, Option.bind_eq_none_iff, Prod.forall]

instance (file : List Char) : Decidable (Unnumbered file) :=
  decidable_of_iff _ unnumbered_iff.symm

theorem splitLast?_numeral (front : List Char) (n : UInt32) :
    splitLast? [':'] (front ++ ':' :: numeral n) = some (front, numeral n) :=
  splitLast?_singleton (not_mem_numeral (by decide) n)

theorem splitPosition?_writePosition {file : List Char} {column : Option UInt32}
    (hfile : column = none → Unnumbered file) (line : UInt32) :
    splitPosition? (writePosition file line column) = some (file, line, column) := by
  unfold splitPosition?
  cases column with
  | some column =>
      rw [writePosition, splitLast?_numeral]
      simp [splitLast?_numeral]
  | none =>
      rw [writePosition, splitLast?_numeral]
      have hnone := unnumbered_iff.mp (hfile rfl)
      cases hsplit : splitLast? [':'] file with
      | none => simp [hsplit]
      | some parts =>
          rw [hsplit, Option.bind_some] at hnone
          simp [hsplit, hnone]

/-- A position ends in a digit. -/
theorem exists_writePosition_eq (file : List Char) (line : UInt32) (column : Option UInt32) :
    ∃ front last, writePosition file line column = front ++ [last] ∧ last.isDigit = true := by
  have hnumeral : ∀ front n, ∃ more last, front ++ ':' :: numeral n = more ++ [last] ∧
      last.isDigit = true := by
    intro front n
    refine ⟨front ++ ':' :: (numeral n).dropLast, (numeral n).getLast (numeral_ne_nil n), ?_, ?_⟩
    · rw [List.append_assoc, List.cons_append, List.dropLast_append_getLast]
    · exact isDigit_of_mem_numeral (List.getLast_mem _)
  cases column with
  | some column => exact hnumeral _ column
  | none => exact hnumeral _ line

theorem not_mem_writePosition {c : Char} {file : List Char} (hfile : c ∉ file) (hcolon : c ≠ ':')
    (hdigit : c.isDigit = false) (line : UInt32) (column : Option UInt32) :
    c ∉ writePosition file line column := by
  cases column with
  | some column => simp [writePosition, hfile, hcolon, not_mem_numeral hdigit]
  | none => simp [writePosition, hfile, hcolon, not_mem_numeral hdigit]

/-- How a frame is written: `at name (position)`, `at position` or `name@position`. -/
inductive Form where
  | call (name file : List Char)
  | place (file : List Char)
  | atSign (name file : List Char)

def Form.name : Form → List Char
  | call name _ => name
  | place _ => []
  | atSign name _ => name

def Form.file : Form → List Char
  | call _ file => file
  | place file => file
  | atSign _ file => file

def Form.Fits : Form → Prop
  | call name file => name ≠ [] ∧ trim name = name ∧ '(' ∉ file
  | place _ => True
  | atSign name _ => '@' ∉ name ∧ ¬ ['a', 't', ' '] <+: name ∧ name.head?.any isBlank = false

instance : DecidablePred Form.Fits
  | .call name file => inferInstanceAs (Decidable (name ≠ [] ∧ trim name = name ∧ '(' ∉ file))
  | .place _ => inferInstanceAs (Decidable True)
  | .atSign name _ => inferInstanceAs (Decidable ('@' ∉ name ∧ ¬ ['a', 't', ' '] <+: name ∧
      name.head?.any isBlank = false))

structure Entry where
  indent : List Char
  form : Form
  line : UInt32
  column : Option UInt32

namespace Entry

variable {entry : Entry}

def position (entry : Entry) : List Char :=
  writePosition entry.form.file entry.line entry.column

def body (entry : Entry) : List Char :=
  match entry.form with
  | .call name _ => ['a', 't', ' '] ++ (name ++ ' ' :: '(' :: (entry.position ++ [')']))
  | .place _ => ['a', 't', ' '] ++ entry.position
  | .atSign name _ => name ++ '@' :: entry.position

def write (entry : Entry) : List Char :=
  entry.indent ++ entry.body

def frame (entry : Entry) : StackFrame where
  location := String.ofList (if entry.form.name = [] then entry.form.file else entry.form.name)
  line := entry.line
  column := entry.column

@[mk_iff]
structure WellFormed (entry : Entry) : Prop where
  indent : entry.indent.all isBlank = true
  form : entry.form.Fits
  feed : '\n' ∉ entry.indent ++ entry.form.name ++ entry.form.file
  column : entry.column = none → Unnumbered entry.form.file

instance : DecidablePred WellFormed :=
  fun entry => decidable_of_iff _ (wellFormed_iff entry).symm

theorem exists_body_eq_cons (hform : entry.form.Fits) :
    ∃ first rest, entry.body = first :: rest ∧ isBlank first = false := by
  unfold body
  cases hcase : entry.form with
  | call name file => exact ⟨'a', _, rfl, by decide⟩
  | place file => exact ⟨'a', _, rfl, by decide⟩
  | atSign name file =>
      rw [hcase] at hform
      cases name with
      | nil => exact ⟨'@', _, rfl, by decide⟩
      | cons c rest => exact ⟨c, _, rfl, hform.2.2⟩

theorem exists_body_eq_append (entry : Entry) :
    ∃ front last, entry.body = front ++ [last] ∧ isBlank last = false := by
  obtain ⟨front, last, hposition, hdigit⟩ :=
    exists_writePosition_eq entry.form.file entry.line entry.column
  have hlast := isBlank_of_isDigit hdigit
  unfold body position
  rw [hposition]
  cases entry.form with
  | call name file =>
      exact ⟨['a', 't', ' '] ++ (name ++ ' ' :: '(' :: (front ++ [last])), ')', by simp, by decide⟩
  | place file => exact ⟨['a', 't', ' '] ++ front, last, by simp, hlast⟩
  | atSign name file => exact ⟨name ++ '@' :: front, last, by simp, hlast⟩

theorem trim_body (hform : entry.form.Fits) : trim entry.body = entry.body := by
  apply trim_eq_self
  · obtain ⟨first, rest, hbody, hfirst⟩ := exists_body_eq_cons hform
    simpa [hbody] using hfirst
  · obtain ⟨front, last, hbody, hlast⟩ := exists_body_eq_append entry
    simpa [hbody] using hlast

/-- The indentation does not matter. -/
theorem trim_write (hentry : entry.WellFormed) : trim entry.write = entry.body := by
  rw [write, trim_blank_append (List.all_eq_true.mp hentry.indent), trim_body hentry.form]

def name? (entry : Entry) : Option (List Char) :=
  match entry.form with
  | .place _ => none
  | .call name _ => some name
  | .atSign name _ => some name

theorem splitCall_call {name position : List Char} (hname : trim name = name)
    (hposition : '(' ∉ position) :
    splitCall (name ++ ' ' :: '(' :: (position ++ [')'])) = (some name, position) := by
  have hopen : splitLast? ['('] (name ++ ' ' :: '(' :: (position ++ [')'])) =
      some (name ++ [' '], position ++ [')']) := by
    have hcut : splitLast? ['('] (name ++ [' '] ++ '(' :: (position ++ [')'])) =
        some (name ++ [' '], position ++ [')']) := splitLast?_singleton (by simp [hposition])
    simpa using hcut
  have hclose : (name ++ ' ' :: '(' :: (position ++ [')'])).getLast? = some ')' := by
    have hlast : name ++ ' ' :: '(' :: (position ++ [')']) =
        (name ++ ' ' :: '(' :: position) ++ [')'] := by simp
    rw [hlast, List.getLast?_concat]
  have htrim : trim (name ++ [' ']) = name := by
    rw [trim_append_blank (List.forall_mem_singleton.mpr (by decide)), hname]
  rw [splitCall, hopen, hclose]
  simp [htrim]

/-- Without a closing parenthesis at its end a call is a position alone. -/
theorem splitCall_place {front : List Char} {last : Char} (hlast : last ≠ ')') :
    splitCall (front ++ [last]) = (none, front ++ [last]) := by
  unfold splitCall
  split
  · next hsome =>
      rw [List.getLast?_concat] at hsome
      exact absurd (Option.some.inj hsome) hlast
  · rfl

theorem not_prefix_append {name position : List Char} (hname : ¬ ['a', 't', ' '] <+: name) :
    ¬ ['a', 't', ' '] <+: name ++ '@' :: position := by
  match name with
  | [] => simp
  | [_] => simp
  | [_, _] => simp
  | _ :: _ :: _ :: _ => simpa using hname

theorem splitLine?_body (hform : entry.form.Fits) :
    splitLine? entry.body = some (entry.name?, entry.position) := by
  unfold splitLine? body name?
  cases hcase : entry.form with
  | call name file =>
      rw [hcase] at hform
      obtain ⟨-, hname, hfile⟩ := hform
      have hposition : '(' ∉ entry.position := by
        rw [position, hcase]
        exact not_mem_writePosition hfile (by decide) (by decide) _ _
      simp [afterStart?, splitCall_call hname hposition]
  | place file =>
      obtain ⟨front, last, hposition, hdigit⟩ :=
        exists_writePosition_eq entry.form.file entry.line entry.column
      have hlast : last ≠ ')' := by
        rintro rfl
        contradiction
      rw [position, hposition]
      simp [afterStart?, splitCall_place hlast]
  | atSign name file =>
      rw [hcase] at hform
      obtain ⟨hname, hstart, -⟩ := hform
      rw [afterStart?_eq_none (not_prefix_append hstart), splitFirst?_singleton hname]
      rfl

/-- A line is read as the frame that it was written for. -/
theorem parseLine?_write (hentry : entry.WellFormed) :
    parseLine? entry.write = some entry.frame := by
  have hposition : splitPosition? entry.position =
      some (entry.form.file, entry.line, entry.column) :=
    splitPosition?_writePosition hentry.column entry.line
  have hname : entry.form.name = entry.name?.getD [] := by
    unfold name?
    cases entry.form <;> rfl
  rw [parseLine?, trim_write hentry, splitLine?_body hentry.form]
  simp only [hposition, frame, hname, Option.bind_eq_bind, Option.bind_some]
  rcases entry.name? with _ | _ | ⟨c, rest⟩
  · rfl
  · rfl
  · rfl

theorem not_mem_write (hentry : entry.WellFormed) : '\n' ∉ entry.write := by
  obtain ⟨hindent, hname, hfile⟩ : '\n' ∉ entry.indent ∧ '\n' ∉ entry.form.name ∧
      '\n' ∉ entry.form.file := by
    simpa using hentry.feed
  have hposition : '\n' ∉ entry.position :=
    not_mem_writePosition hfile (by decide) (by decide) _ _
  unfold write body
  cases hcase : entry.form with
  | call name file => simp_all [Form.name]
  | place file => simp_all [Form.name]
  | atSign name file => simp_all [Form.name]

end Entry

/-! ## Traces -/

/-- A frame, or a text that names no place, such as the message on top. -/
inductive Line where
  | frame (entry : Entry)
  | other (text : List Char)

namespace Line

def write : Line → List Char
  | frame entry => entry.write
  | other text => text

def frame? : Line → Option StackFrame
  | frame entry => some entry.frame
  | other _ => none

def WellFormed : Line → Prop
  | frame entry => entry.WellFormed
  | other text => '\n' ∉ text ∧ '@' ∉ text ∧ ¬ ['a', 't', ' '] <+: trim text

instance : DecidablePred WellFormed
  | frame entry => inferInstanceAs (Decidable entry.WellFormed)
  | other text =>
      inferInstanceAs (Decidable ('\n' ∉ text ∧ '@' ∉ text ∧ ¬ ['a', 't', ' '] <+: trim text))

theorem not_mem_write {line : Line} (hline : line.WellFormed) : '\n' ∉ line.write := by
  cases line with
  | frame entry => exact Entry.not_mem_write hline
  | other text => exact hline.1

theorem parseLine?_write {line : Line} (hline : line.WellFormed) :
    parseLine? line.write = line.frame? := by
  cases line with
  | frame entry => exact Entry.parseLine?_write hline
  | other text =>
      obtain ⟨-, hat, hstart⟩ := hline
      have htrim : '@' ∉ trim text := by
        obtain ⟨left, right, -, -, htext⟩ := exists_eq_append_trim text
        intro hmem
        rw [htext] at hat
        simp [hmem] at hat
      rw [write, parseLine?, splitLine?, afterStart?_eq_none hstart,
        splitFirst?_singleton_of_not_mem htrim]
      rfl

end Line

theorem parseLine?_dropReturn (line : List Char) :
    parseLine? (dropReturn line) = parseLine? line := by
  have htrim : trim (dropReturn line) = trim line := by
    unfold dropReturn
    split
    · next hlast =>
        obtain ⟨front, rfl⟩ := List.getLast?_eq_some_iff.mp hlast
        rw [List.dropLast_concat, trim_append_blank (List.forall_mem_singleton.mpr (by decide))]
    · rfl
  rw [parseLine?, parseLine?, htrim]

/-- The lines of a joined text are read one by one. -/
theorem filterMap_parseLine?_intercalate {texts : List (List Char)}
    (htexts : ∀ text ∈ texts, '\n' ∉ text) :
    (lines (List.intercalate ['\n'] texts)).filterMap parseLine? = texts.filterMap parseLine? := by
  induction texts with
  | nil => rfl
  | cons text rest ih =>
      obtain ⟨htext, hrest⟩ := List.forall_mem_cons.mp htexts
      cases rest with
      | nil =>
          rw [List.intercalate_singleton, lines_of_not_mem htext]
          cases text <;> rfl
      | cons next rest =>
          rw [List.intercalate_cons_cons, List.append_assoc, List.singleton_append,
            lines_append_feed htext, List.filterMap_cons, List.filterMap_cons,
            parseLine?_dropReturn, ih hrest]

/-- A trace is read as the frames that it was written for, in their order. -/
theorem parse_write (written : List Line) (hwritten : ∀ line ∈ written, line.WellFormed) :
    parse (String.ofList (List.intercalate ['\n'] (written.map Line.write))) =
      written.filterMap Line.frame? := by
  have htexts : ∀ text ∈ written.map Line.write, '\n' ∉ text := by
    intro text hmem
    obtain ⟨line, hline, rfl⟩ := List.mem_map.mp hmem
    exact Line.not_mem_write (hwritten line hline)
  rw [parse, String.toList_ofList, filterMap_parseLine?_intercalate htexts, List.filterMap_map]
  exact List.filterMap_congr fun line hline => Line.parseLine?_write (hwritten line hline)

/-- Names with parentheses, files with an at sign or a port, and columns left out. -/
theorem parse_of_written_frames :
    parse ("Error: boom\n  at f (g@h) (http://h:80/x.js:12:7)\n\tat C:\\a (1).js:3:1\n" ++
        "k (@@scope/x.js:40\n@h:8x:5") =
      [⟨"f (g@h)", 12, some 7⟩, ⟨"C:\\a (1).js", 3, some 1⟩, ⟨"k (", 40, none⟩,
        ⟨"h:8x", 5, none⟩] := by
  have hparse := parse_write
    [.other "Error: boom".toList,
      .frame ⟨[' ', ' '], .call "f (g@h)".toList "http://h:80/x.js".toList, 12, some 7⟩,
      .frame ⟨['\t'], .place "C:\\a (1).js".toList, 3, some 1⟩,
      .frame ⟨[], .atSign "k (".toList "@scope/x.js".toList, 40, none⟩,
      .frame ⟨[], .atSign [] "h:8x".toList, 5, none⟩]
    (by decide)
  exact hparse

end ServerRender.StackTrace
