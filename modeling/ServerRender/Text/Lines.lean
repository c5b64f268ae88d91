/-!
# Lines of a text

A line ends at a line feed, and a carriage return right before that line feed
belongs to the ending. Nothing follows the last line feed of a text that ends in
one, so such a text has no empty last line.
-/

namespace ServerRender.Text

/-- Puts a character in front of the first line, opening one where there is none. -/
def consLine (c : Char) : List (List Char) → List (List Char)
  | [] => [[c]]
  | line :: rest => (c :: line) :: rest

/-- Reads a text from its end: the lines of the rest, and whether the rest starts
with a line feed. -/
private def linesStep (c : Char) (rest : List (List Char) × Bool) : List (List Char) × Bool :=
  if c = '\n' then ([] :: rest.1, true)
  else if c = '\r' && rest.2 then (rest.1, false)
  else (consLine c rest.1, false)

def lines (text : List Char) : List (List Char) :=
  (text.foldr linesStep ([], false)).1

/-! ## Lines one by one -/

/-- A line without the carriage return at its end. -/
def dropReturn (line : List Char) : List Char :=
  if line.getLast? = some '\r' then line.dropLast else line

private theorem linesStep_snd (text : List Char) :
    (text.foldr linesStep ([], false)).2 = true ↔ text.head? = some '\n' := by
  cases text with
  | nil => simp
  | cons c rest =>
    simp only [List.foldr_cons, linesStep, List.head?_cons, Option.some.injEq]
    split
    · simp [*]
    · split <;> simp [*]

theorem lines_feed (text : List Char) : lines ('\n' :: text) = [] :: lines text := by
  simp [lines, linesStep]

theorem lines_return_feed (text : List Char) : lines ('\r' :: '\n' :: text) = [] :: lines text := by
  simp [lines, linesStep]

/-- A character is the first one of its line unless it belongs to a line's ending. -/
theorem lines_cons {c : Char} {text : List Char} (hfeed : c ≠ '\n')
    (hreturn : c ≠ '\r' ∨ text.head? ≠ some '\n') :
    lines (c :: text) = consLine c (lines text) := by
  have hstep : (c = '\r' && (text.foldr linesStep ([], false)).2) = false := by
    rw [Bool.and_eq_false_iff, decide_eq_false_iff_not, Bool.eq_false_iff, Ne, linesStep_snd]
    exact hreturn
  simp only [lines, List.foldr_cons, linesStep, if_neg hfeed, hstep, Bool.false_eq_true, if_false]

theorem dropReturn_cons_cons (c d : Char) (rest : List Char) :
    dropReturn (c :: d :: rest) = c :: dropReturn (d :: rest) := by
  unfold dropReturn
  rw [List.getLast?_cons_cons]
  split <;> rfl

/-- A text starts with the line up to its first line feed. -/
theorem lines_append_feed {line : List Char} (hline : '\n' ∉ line) (text : List Char) :
    lines (line ++ '\n' :: text) = dropReturn line :: lines text := by
  induction line with
  | nil => exact lines_feed text
  | cons c rest ih =>
    simp only [List.mem_cons, not_or] at hline
    cases rest with
    | nil =>
      by_cases hreturn : c = '\r'
      · subst hreturn
        exact lines_return_feed text
      · rw [List.singleton_append, lines_cons (Ne.symm hline.1) (.inl hreturn), lines_feed]
        simp [consLine, dropReturn, hreturn]
    | cons d rest =>
      have hd : '\n' ≠ d := fun heq => hline.2 (heq ▸ List.mem_cons_self)
      rw [List.cons_append, lines_cons (Ne.symm hline.1) (.inr (by simpa using hd.symm)),
        ih hline.2, dropReturn_cons_cons]
      rfl

/-- A text without line feeds is a line, unless it is empty. -/
theorem lines_of_not_mem {line : List Char} (hline : '\n' ∉ line) :
    lines line = if line.isEmpty then [] else [line] := by
  induction line with
  | nil => rfl
  | cons c rest ih =>
    simp only [List.mem_cons, not_or] at hline
    have hhead : rest.head? ≠ some '\n' := fun hhead => hline.2 (List.mem_of_mem_head? hhead)
    rw [lines_cons (Ne.symm hline.1) (.inr hhead), ih hline.2]
    cases rest <;> rfl

end ServerRender.Text
