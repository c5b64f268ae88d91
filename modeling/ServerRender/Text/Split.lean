/-!
# Cutting a text at a pattern

Each function cuts at one occurrence of a pattern and drops the pattern; `none`
means that the pattern does not occur. The pieces and the pattern between them are
the text again.
-/

namespace ServerRender.Text

/-- What follows `pattern` in a text that starts with it. -/
def afterStart? (pattern text : List Char) : Option (List Char) :=
  if pattern.isPrefixOf text then some (text.drop pattern.length) else none

/-- The text before and after the first occurrence of `pattern`. -/
def splitFirst? (pattern : List Char) : List Char → Option (List Char × List Char)
  | [] => if pattern.isEmpty then some ([], []) else none
  | c :: rest =>
    if pattern.isPrefixOf (c :: rest) then some ([], (c :: rest).drop pattern.length)
    else (splitFirst? pattern rest).map fun parts => (c :: parts.1, parts.2)

/-- The text before and after the last occurrence of `pattern`. -/
def splitLast? (pattern : List Char) : List Char → Option (List Char × List Char)
  | [] => if pattern.isEmpty then some ([], []) else none
  | c :: rest =>
    match splitLast? pattern rest with
    | some parts => some (c :: parts.1, parts.2)
    | none =>
      if pattern.isPrefixOf (c :: rest) then some ([], (c :: rest).drop pattern.length) else none

private theorem append_drop_of_isPrefixOf {pattern text : List Char}
    (hpattern : pattern.isPrefixOf text = true) : text = pattern ++ text.drop pattern.length := by
  obtain ⟨rest, rfl⟩ := List.isPrefixOf_iff_prefix.1 hpattern
  simp

theorem eq_of_splitFirst? {pattern text before after : List Char}
    (hsplit : splitFirst? pattern text = some (before, after)) :
    text = before ++ pattern ++ after := by
  induction text generalizing before with
  | nil =>
    simp only [splitFirst?] at hsplit
    split at hsplit <;> simp_all
  | cons c rest ih =>
    simp only [splitFirst?] at hsplit
    split at hsplit
    · next hpattern =>
      simp only [Option.some.injEq, Prod.mk.injEq] at hsplit
      obtain ⟨rfl, rfl⟩ := hsplit
      simpa using append_drop_of_isPrefixOf hpattern
    · obtain ⟨⟨first, last⟩, hrest, hparts⟩ := Option.map_eq_some_iff.1 hsplit
      simp only [Prod.mk.injEq] at hparts
      obtain ⟨rfl, rfl⟩ := hparts
      simp [ih hrest]

theorem eq_of_splitLast? {pattern text before after : List Char}
    (hsplit : splitLast? pattern text = some (before, after)) :
    text = before ++ pattern ++ after := by
  induction text generalizing before with
  | nil =>
    simp only [splitLast?] at hsplit
    split at hsplit <;> simp_all
  | cons c rest ih =>
    simp only [splitLast?] at hsplit
    split at hsplit
    · next parts hrest =>
      simp only [Option.some.injEq, Prod.mk.injEq] at hsplit
      obtain ⟨rfl, rfl⟩ := hsplit
      simp [ih hrest]
    · split at hsplit
      · next hpattern =>
        simp only [Option.some.injEq, Prod.mk.injEq] at hsplit
        obtain ⟨rfl, rfl⟩ := hsplit
        simpa using append_drop_of_isPrefixOf hpattern
      · simp at hsplit

end ServerRender.Text
