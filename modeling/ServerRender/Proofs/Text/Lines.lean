import ServerRender.Text.Lines

/-!
# Lines between line feeds

The line feeds of a text cut it into pieces, one more than there are line feeds.  Each
piece but the last is a line, without the carriage return at its end, and the last piece
is one if it is not empty.  A line feed between two texts therefore makes lines of all
pieces of the first, and leaves those of the second as they are.
-/

namespace ServerRender.Text

/-- A text is followed from one line feed to the next. -/
theorem feedInduction {motive : List Char → Prop}
    (last : ∀ line : List Char, '\n' ∉ line → motive line)
    (feed : ∀ line rest : List Char, '\n' ∉ line → motive rest → motive (line ++ '\n' :: rest))
    (text : List Char) : motive text := by
  by_cases hfeed : '\n' ∈ text
  · obtain ⟨line, rest, heq, hline⟩ := List.eq_append_cons_of_mem hfeed
    have hshorter : rest.length < text.length := by
      rw [heq, List.length_append, List.length_cons]
      omega
    rw [heq]
    exact feed line rest hline (feedInduction last feed rest)
  · exact last text hfeed
termination_by text.length

/-- The pieces of a text between its line feeds, as lines: the carriage return before a
line feed belongs to the ending, and nothing is no last line. -/
def splitLines (text : List Char) : List (List Char) :=
  let pieces := text.splitOn '\n'
  pieces.dropLast.map dropReturn ++ pieces.getLast?.toList.filter (· ≠ [])

theorem lines_eq_splitLines (text : List Char) : lines text = splitLines text := by
  induction text using feedInduction with
  | last line hline =>
      rw [lines_of_not_mem hline, splitLines, List.splitOn_eq_singleton hline]
      cases line with
      | nil => rfl
      | cons c rest => rfl
  | feed line rest hline ih =>
      have hpieces : (line ++ '\n' :: rest).splitOn '\n' = line :: rest.splitOn '\n' := by
        rw [List.splitOn_append_cons_self, List.splitOn_eq_singleton hline, List.singleton_append]
      have hrest : rest.splitOn '\n' ≠ [] := List.splitOn_ne_nil '\n' rest
      rw [lines_append_feed hline, ih, splitLines, splitLines, hpieces,
        List.dropLast_cons_of_ne_nil hrest, List.getLast?_cons_of_ne_nil hrest, List.map_cons,
        List.cons_append]

/-- A line holds no line feed. -/
theorem not_mem_of_mem_lines {text line : List Char} (hline : line ∈ lines text) :
    '\n' ∉ line := by
  induction text using feedInduction with
  | last piece hpiece =>
      rw [lines_of_not_mem hpiece] at hline
      split at hline
      · contradiction
      · rwa [List.mem_singleton.mp hline]
  | feed piece rest hpiece ih =>
      rw [lines_append_feed hpiece] at hline
      cases hline with
      | head =>
          unfold dropReturn
          split
          · exact fun hmem => hpiece (List.dropLast_subset piece hmem)
          · exact hpiece
      | tail _ hrest => exact ih hrest

/-- Every piece of a text before a line feed is a line. -/
theorem lines_append_feed_append (text rest : List Char) :
    lines (text ++ '\n' :: rest) = (text.splitOn '\n').map dropReturn ++ lines rest := by
  induction text using feedInduction with
  | last line hline =>
      rw [lines_append_feed hline, List.splitOn_eq_singleton hline]
      rfl
  | feed line more hline ih =>
      rw [List.append_assoc, List.cons_append, lines_append_feed hline, ih,
        List.splitOn_append_cons_self, List.splitOn_eq_singleton hline]
      rfl

end ServerRender.Text
