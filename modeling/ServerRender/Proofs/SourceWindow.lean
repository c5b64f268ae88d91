import Mathlib.Data.List.Forall2
import ServerRender.Proofs.Text.Lines
import ServerRender.SourceWindow

/-!
# What a source window shows

A window is seen by its columns: two of them for the mark, then the numbers, right-aligned
in as many columns as the largest of them needs, and then the lines themselves.  There is
a row for each line from three before the marked one to three behind it, as far as the
source goes, and there is a window for every line that the source has.  Counted in words
of a machine, none of the numbers on the way leaves its range.
-/

namespace ServerRender.SourceWindow

variable {lines : List (List Char)} {text : List Char} {window : String}
variable {width target number start count : Nat}

/-- The row of a line: the mark, the number, and from one fixed column on the bar and the
line as it is. -/
structure IsRow (width target number : Nat) (text : List Char) (row : String) : Prop where
  mark : row.toList.take 2 = if number = target then ['>', '>'] else [' ', ' ']
  number : ∃ blanks, (row.toList.drop 2).take (width + 1) =
    List.replicate (blanks + 1) ' ' ++ (toString number).toList
  text : row.toList.drop (width + 3) = [' ', '|', ' '] ++ text ++ ['\n']

theorem length_toString_mono {n m : Nat} (hle : n ≤ m) :
    (toString n).length ≤ (toString m).length := by
  have hpos : 0 < (toString m).length := Nat.length_repr_pos
  have hlt : m < 10 ^ (toString m).length := (Nat.length_repr_le_iff hpos).mp (Nat.le_refl _)
  exact (Nat.length_repr_le_iff hpos).mpr (Nat.lt_of_le_of_lt hle hlt)

theorem isRow_row (hwidth : (toString number).length ≤ width) (text : List Char) :
    IsRow width target number text (row width target number text) := by
  let mark : List Char := if number = target then ['>', '>'] else [' ', ' ']
  let blanks := width - (toString number).length
  let label := List.replicate (blanks + 1) ' ' ++ (toString number).toList
  have hmark : mark.length = 2 := by
    simp only [mark]
    split
    · rfl
    · rfl
  have hlabel : label.length = width + 1 := by
    simp only [label, blanks, List.length_append, List.length_replicate, String.length_toList]
    omega
  have hrow : (row width target number text).toList =
      mark ++ (label ++ ([' ', '|', ' '] ++ text ++ ['\n'])) := by
    simp only [row, mark, label, blanks, Text.padLeft, List.replicate_succ]
    split
    · simp
    · simp
  refine ⟨?_, ⟨blanks, ?_⟩, ?_⟩
  · rw [hrow, List.take_left' hmark]
  · rw [hrow, List.drop_left' hmark, List.take_left' hlabel]
  · rw [hrow, ← List.append_assoc mark, List.drop_left' (by rw [List.length_append]; omega)]

/-- The rows of consecutive lines, each by its own index. -/
theorem rows_eq_map (hle : start + count ≤ lines.length) :
    rows width target (start + 1) ((lines.drop start).take count) =
      (List.range' start count).map fun index =>
        row width target (index + 1) (lines[index]?.getD []) := by
  induction count generalizing start with
  | zero => simp [rows]
  | succ count ih =>
      have hlt : start < lines.length := by omega
      rw [List.drop_eq_getElem_cons hlt, List.take_succ_cons, rows, ih (by omega),
        List.range'_succ, List.map_cons, List.getElem?_eq_getElem hlt, Option.getD_some]

/-! ## Windows -/

/-- The window of a line among others: a head with the first and the last line that are
shown, and a row for each of these and all between, in order. -/
def Depicts (lines : List (List Char)) (target : Nat) (window : String) : Prop :=
  let first := max 1 (target - 3)
  let last := min lines.length (target + 3)
  ∃ rows : List String,
    window = s!"<lines {first} through {last}>:\n" ++ String.join rows ∧
    List.Forall₂ (fun number row => ∃ text, lines[number - 1]? = some text ∧
        IsRow (toString last).length target number text row)
      (List.range' first (last + 1 - first)) rows

/-- One row of the window has the mark, and it is that of the line with this number and
this text. -/
def Marks (window : String) (number : Nat) (text : List Char) : Prop :=
  ∃ (head : String) (above : List String) (row : String) (below : List String) (width : Nat),
    window = head ++ String.join (above ++ row :: below) ∧
    IsRow width number number text row ∧
    ∀ other ∈ above ++ below, other.toList.take 2 = [' ', ' ']

/-- Rows of other lines than the one that a window is about have no mark. -/
theorem blank_of_isRow {numbers : List Nat} {rows : List String}
    (hrows : List.Forall₂ (fun number row => ∃ text, lines[number - 1]? = some text ∧
      IsRow width target number text row) numbers rows)
    (hother : target ∉ numbers) : ∀ row ∈ rows, row.toList.take 2 = [' ', ' '] := by
  induction hrows with
  | nil => simp
  | cons hrow _ ih =>
      obtain ⟨text, -, hrow⟩ := hrow
      simp only [List.mem_cons, not_or] at hother
      intro row hmem
      rcases List.mem_cons.mp hmem with rfl | hmem
      · rw [hrow.mark, if_neg (Ne.symm hother.1)]
      · exact ih hother.2 row hmem

/-- The line that a window is about is the marked one, and no other is. -/
theorem Depicts.marks (hdepicts : Depicts lines target window) (hpos : 1 ≤ target)
    (htext : lines[target - 1]? = some text) : Marks window target text := by
  obtain ⟨rows, hwindow, hrows⟩ := hdepicts
  have hlt : target - 1 < lines.length := (List.getElem?_eq_some_iff.mp htext).1
  set first := max 1 (target - 3) with hfirst
  set last := min lines.length (target + 3) with hlast
  -- The rows above the marked one, and the marked one with those below it.
  have habove := List.forall₂_take (target - first) hrows
  have hbelow := List.forall₂_drop (target - first) hrows
  rw [List.take_range'_of_length_ge (by omega)] at habove
  rw [List.drop_range', Nat.mul_one, show first + (target - first) = target by omega,
    show last + 1 - first - (target - first) = last - target + 1 by omega, List.range'_succ,
    List.forall₂_cons_left_iff] at hbelow
  obtain ⟨row, below, ⟨found, hfound, hrow⟩, hbelow, hdrop⟩ := hbelow
  obtain rfl := Option.some.inj (htext.symm.trans hfound)
  rw [← List.take_append_drop (target - first) rows, hdrop] at hwindow
  refine ⟨_, _, row, below, _, hwindow, hrow, ?_⟩
  intro other hother
  rcases List.mem_append.mp hother with hother | hother
  · exact blank_of_isRow habove (by simp only [List.mem_range'_1]; omega) other hother
  · exact blank_of_isRow hbelow (by simp only [List.mem_range'_1]; omega) other hother

def compose (lines : List (List Char)) (target : Nat) : String :=
  let first := max 1 (target - 3)
  let last := min lines.length (target + 3)
  s!"<lines {first} through {last}>:\n" ++
    String.join ((List.range' (first - 1) (last + 1 - first)).map fun index =>
      row (toString last).length target (index + 1) (lines[index]?.getD []))

theorem depicts_compose (lines : List (List Char)) (target : Nat) :
    Depicts lines target (compose lines target) := by
  set first := max 1 (target - 3) with hfirst
  set last := min lines.length (target + 3) with hlast
  have hnumbers : List.range' first (last + 1 - first) =
      (List.range' (first - 1) (last + 1 - first)).map (· + 1) := by
    rw [← List.range'_succ_left, Nat.sub_add_cancel (by omega)]
  refine ⟨_, rfl, ?_⟩
  rw [hnumbers, List.forall₂_map_left_iff, List.forall₂_map_right_iff, List.forall₂_same]
  intro index hindex
  rw [List.mem_range'_1] at hindex
  have hlt : index < lines.length := by omega
  refine ⟨lines[index], ?_, ?_⟩
  · rw [Nat.add_sub_cancel, List.getElem?_eq_getElem hlt]
  · rw [List.getElem?_eq_getElem hlt, Option.getD_some]
    exact isRow_row (length_toString_mono (by omega)) _

/-- There is a window for every line that the source has, and for no other number. -/
theorem render?_eq (source : String) (line : UInt32) :
    render? source line =
      if 1 ≤ line.toNat ∧ line.toNat ≤ (Text.lines source.toList).length then
        some (compose (Text.lines source.toList) line.toNat)
      else none := by
  simp only [render?, contextLines]
  set lines := Text.lines source.toList
  set target := line.toNat
  set first := max 1 (target - 3) with hfirst
  set last := min lines.length (target + 3) with hlast
  split
  · next houtside =>
      rw [if_neg]
      simp only [Bool.or_eq_true, decide_eq_true_eq] at houtside
      omega
  · next hinside =>
      simp only [Bool.or_eq_true, decide_eq_true_eq, not_or] at hinside
      rw [if_pos (by omega)]
      have hrows : rows (toString last).length target (first - 1 + 1)
          ((lines.drop (first - 1)).take (last + 1 - first)) = _ := rows_eq_map (by omega)
      rw [Nat.sub_add_cancel (by omega)] at hrows
      rw [hrows]
      rfl

def sum? (a b : Nat) : Option Nat :=
  if a + b < UInt64.size then some (a + b) else none

def difference? (a b : Nat) : Option Nat :=
  if b ≤ a then some (a - b) else none

/-- The window of a line by its index, in words of 64 bits.  A sum or a difference that is
out of range, or a line that is looked up and not there, ends the work. -/
def composeInWords? (lines : List (List Char)) (index : Nat) : Option String := do
  let start := index - contextLines
  let stop := min (← sum? index contextLines) (← difference? lines.length 1)
  let first ← sum? start 1
  let last ← sum? stop 1
  let target ← sum? index 1
  let rows ← ((List.range last).drop start).mapM fun i => do
    return row (toString last).length target (← sum? i 1) (← lines[i]?)
  return s!"<lines {first} through {last}>:\n" ++ String.join rows

def renderInWords? (source : String) (line : UInt32) : Option (Option String) :=
  let lines := Text.lines source.toList
  match difference? line.toNat 1 with
  | none => some none
  | some index =>
    if lines.length ≤ index then some none else (composeInWords? lines index).map some

theorem mapM_eq_some_map {α β : Type} {f : α → Option β} {g : α → β} {list : List α}
    (hf : ∀ a ∈ list, f a = some (g a)) : list.mapM f = some (list.map g) := by
  induction list with
  | nil => rfl
  | cons a rest ih =>
      rw [List.mapM_cons, hf a List.mem_cons_self,
        ih fun b hb => hf b (List.mem_cons_of_mem a hb)]
      rfl

theorem sum?_eq {a b : Nat} (hlt : a + b < UInt64.size) : sum? a b = some (a + b) :=
  if_pos hlt

theorem difference?_eq {a b : Nat} (hle : b ≤ a) : difference? a b = some (a - b) :=
  if_pos hle

/-- The rows of lines that are all there. -/
theorem mapM_row {last : Nat} (hlast : last ≤ lines.length) (hsize : last < UInt64.size) :
    ((List.range last).drop start).mapM (fun index => (sum? index 1).bind fun number =>
      lines[index]?.bind fun text => pure (row width target number text)) =
    some ((List.range' start (last - start)).map fun index =>
      row width target (index + 1) (lines[index]?.getD [])) := by
  have hindices : (List.range last).drop start = List.range' start (last - start) := by
    rw [List.range_eq_range', List.drop_range', Nat.zero_add, Nat.mul_one]
  rw [hindices]
  refine mapM_eq_some_map fun index hindex => ?_
  rw [List.mem_range'_1] at hindex
  rw [sum?_eq (by omega), List.getElem?_eq_getElem (by omega), Option.getD_some]
  rfl

theorem composeInWords?_eq {index : Nat} (hlt : index < lines.length)
    (hsize : index < UInt32.size) :
    composeInWords? lines index = some (compose lines (index + 1)) := by
  have hwords : index + 4 < UInt64.size := by
    simp only [UInt32.size, UInt64.size] at hsize ⊢
    omega
  have hfirst : index - 3 + 1 = max 1 (index + 1 - 3) := by omega
  have hlast : min (index + 3) (lines.length - 1) + 1 = min lines.length (index + 1 + 3) := by
    omega
  have hstart : max 1 (index + 1 - 3) - 1 = index - 3 := by omega
  have hcount : min lines.length (index + 1 + 3) + 1 - max 1 (index + 1 - 3) =
      min lines.length (index + 1 + 3) - (index - 3) := by omega
  have hstop : min (index + 3) (lines.length - 1) + 1 < UInt64.size := by omega
  simp only [composeInWords?, contextLines, Option.bind_eq_bind, Option.bind_some,
    sum?_eq (show index + 3 < UInt64.size by omega), sum?_eq hstop,
    sum?_eq (show index + 1 < UInt64.size by omega),
    sum?_eq (show index - 3 + 1 < UInt64.size by omega),
    difference?_eq (show 1 ≤ lines.length by omega), hfirst, hlast]
  rw [mapM_row (by omega) (by omega), compose, hstart, hcount]
  rfl

/-- No sum, no difference and no line is out of range, whatever the source and the
number. -/
theorem renderInWords?_eq (source : String) (line : UInt32) :
    renderInWords? source line = some (render? source line) := by
  have hsize : line.toNat < UInt32.size := line.toNat_lt
  rw [render?_eq, renderInWords?]
  by_cases hpos : 1 ≤ line.toNat
  · rw [difference?_eq hpos]
    by_cases hle : line.toNat ≤ (Text.lines source.toList).length
    · rw [if_pos ⟨hpos, hle⟩]
      simp only [if_neg (show ¬ (Text.lines source.toList).length ≤ line.toNat - 1 by omega)]
      rw [composeInWords?_eq (by omega) (by omega), Nat.sub_add_cancel hpos]
      rfl
    · simp [show (Text.lines source.toList).length ≤ line.toNat - 1 by omega, hle]
  · simp [difference?, hpos]

/-- A window is there exactly for the lines of the source, it has the lines around its own
one as they are, each in a row of its own, and the mark at no other row.  All numbers on
the way to it are in range. -/
theorem window_shows_lines (source : String) (line : UInt32) :
    ((render? source line).isSome ↔
      1 ≤ line.toNat ∧ line.toNat ≤ (Text.splitLines source.toList).length) ∧
    (∀ window, render? source line = some window →
      Depicts (Text.splitLines source.toList) line.toNat window ∧
      ∃ text, (Text.splitLines source.toList)[line.toNat - 1]? = some text ∧
        Marks window line.toNat text) ∧
    renderInWords? source line = some (render? source line) := by
  rw [← Text.lines_eq_splitLines]
  refine ⟨?_, ?_, renderInWords?_eq source line⟩
  · rw [render?_eq, Option.isSome_ite]
  · intro window hwindow
    rw [render?_eq, Option.ite_none_right_eq_some] at hwindow
    obtain ⟨⟨hpos, hle⟩, hwindow⟩ := hwindow
    obtain rfl := Option.some.inj hwindow
    have hdepicts := depicts_compose (Text.lines source.toList) line.toNat
    have htext := List.getElem?_eq_getElem
      (show line.toNat - 1 < (Text.lines source.toList).length by omega)
    exact ⟨hdepicts, _, htext, hdepicts.marks hpos htext⟩

def tenLines : String :=
  "one\r\ntwo\n\nfour\nfive\nsix\nseven\neight\nnine\nten\r\n"

/-- The seventh of them and those around it.  The last number is wider than the others. -/
def seventhOfTen : String :=
  "<lines 4 through 10>:\n    4 | four\n    5 | five\n    6 | six\n>>  7 | seven\n    8 | eight\n"
    ++ "    9 | nine\n   10 | ten\n"

theorem depicts_seventhOfTen :
    render? tenLines 7 = some seventhOfTen ∧
    Depicts (Text.splitLines tenLines.toList) 7 seventhOfTen := by
  have hrender : render? tenLines 7 = some seventhOfTen := by decide +kernel
  exact ⟨hrender, ((window_shows_lines tenLines 7).2.1 _ hrender).1⟩

end ServerRender.SourceWindow
