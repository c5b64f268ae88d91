import Mathlib.Data.List.Infix
import ServerRender.Text.Split

/-!
# First and last cuts

A text may hold a pattern many times, and the occurrences may overlap.  The first cut is
at the occurrence that starts before all others, and the last cut at the one that starts
behind them.  The two functions that cut a text find exactly these, and they find nothing
exactly if the pattern does not occur.
-/

namespace ServerRender.Text

variable {pattern text before after : List Char} {c : Char}

/-- The pattern stands between the two parts, and nowhere further to the left. -/
structure FirstCut (pattern text before after : List Char) : Prop where
  eq : text = before ++ pattern ++ after
  le : ∀ other rest : List Char, text = other ++ pattern ++ rest →
    before.length ≤ other.length

/-- The pattern stands between the two parts, and nowhere further to the right. -/
structure LastCut (pattern text before after : List Char) : Prop where
  eq : text = before ++ pattern ++ after
  le : ∀ other rest : List Char, text = other ++ pattern ++ rest →
    other.length ≤ before.length

theorem infix_iff_exists :
    pattern <:+: text ↔ ∃ before after, text = before ++ pattern ++ after := by
  constructor
  · rintro ⟨before, after, rfl⟩
    exact ⟨before, after, rfl⟩
  · rintro ⟨before, after, rfl⟩
    exact ⟨before, after, rfl⟩

theorem singleton_infix_iff : [c] <:+: text ↔ c ∈ text := by
  rw [infix_iff_exists, List.mem_iff_append]
  simp only [List.append_assoc, List.singleton_append]

/-- Two cuts at one place have the same parts. -/
theorem parts_eq_of_length {other rest : List Char}
    (heq : before ++ pattern ++ after = other ++ pattern ++ rest)
    (hlength : before.length = other.length) : before = other ∧ after = rest := by
  rw [List.append_assoc, List.append_assoc] at heq
  obtain ⟨hbefore, hrest⟩ := List.append_inj heq hlength
  exact ⟨hbefore, List.append_cancel_left hrest⟩

theorem FirstCut.unique {other rest : List Char} (hcut : FirstCut pattern text before after)
    (hother : FirstCut pattern text other rest) : before = other ∧ after = rest := by
  apply parts_eq_of_length (hcut.eq.symm.trans hother.eq)
  exact Nat.le_antisymm (hcut.le _ _ hother.eq) (hother.le _ _ hcut.eq)

theorem LastCut.unique {other rest : List Char} (hcut : LastCut pattern text before after)
    (hother : LastCut pattern text other rest) : before = other ∧ after = rest := by
  apply parts_eq_of_length (hcut.eq.symm.trans hother.eq)
  exact Nat.le_antisymm (hother.le _ _ hcut.eq) (hcut.le _ _ hother.eq)

theorem splitFirst?_eq_none_iff : splitFirst? pattern text = none ↔ ¬ pattern <:+: text := by
  induction text with
  | nil => cases pattern <;> simp [splitFirst?]
  | cons c rest ih =>
      rw [List.infix_cons_iff, ← List.isPrefixOf_iff_prefix, splitFirst?]
      split
      · next hstarts => simp [hstarts]
      · next hstarts => simp [hstarts, ih]

theorem firstCut_of_splitFirst? (hsplit : splitFirst? pattern text = some (before, after)) :
    FirstCut pattern text before after := by
  refine ⟨eq_of_splitFirst? hsplit, ?_⟩
  intro other rest heq
  induction text generalizing before other with
  | nil =>
      have hnil := eq_of_splitFirst? hsplit
      simp only [List.nil_eq, List.append_eq_nil_iff] at hnil
      simp [hnil]
  | cons c tail ih =>
      rw [splitFirst?] at hsplit
      split at hsplit
      · obtain ⟨rfl, -⟩ := Prod.ext_iff.mp (Option.some.inj hsplit)
        exact Nat.zero_le _
      · next hstarts =>
          obtain ⟨⟨first, last⟩, hfound, hparts⟩ := Option.map_eq_some_iff.mp hsplit
          obtain ⟨rfl, rfl⟩ := Prod.ext_iff.mp hparts
          cases other with
          | nil =>
              rw [List.nil_append] at heq
              exact absurd (List.isPrefixOf_iff_prefix.mpr ⟨rest, heq.symm⟩) hstarts
          | cons d more =>
              obtain ⟨-, htail⟩ := List.cons.inj heq
              exact Nat.succ_le_succ (ih hfound more htail)

theorem splitFirst?_eq_some_iff :
    splitFirst? pattern text = some (before, after) ↔ FirstCut pattern text before after := by
  refine ⟨firstCut_of_splitFirst?, fun hcut => ?_⟩
  cases hsplit : splitFirst? pattern text with
  | none =>
      exact absurd (infix_iff_exists.mpr ⟨before, after, hcut.eq⟩)
        (splitFirst?_eq_none_iff.mp hsplit)
  | some parts =>
      obtain ⟨rfl, rfl⟩ := hcut.unique (firstCut_of_splitFirst? hsplit)
      rfl

/-- A text that holds the pattern has a first cut. -/
theorem exists_firstCut (hoccurs : pattern <:+: text) :
    ∃ before after, FirstCut pattern text before after := by
  cases hsplit : splitFirst? pattern text with
  | none => exact absurd hoccurs (splitFirst?_eq_none_iff.mp hsplit)
  | some parts => exact ⟨parts.1, parts.2, firstCut_of_splitFirst? hsplit⟩

/-- A text that is cut further to the left has a longer rest. -/
theorem exists_between {other rest : List Char}
    (heq : before ++ pattern ++ after = other ++ pattern ++ rest)
    (hlt : other.length < before.length) :
    ∃ first between, before = other ++ first :: between ∧
      pattern ++ rest = first :: between ++ (pattern ++ after) := by
  rw [List.append_assoc, List.append_assoc, List.append_eq_append_iff] at heq
  rcases heq with ⟨between, rfl, -⟩ | ⟨between, rfl, hrest⟩
  · rw [List.length_append] at hlt
    omega
  · cases between with
    | nil =>
        rw [List.append_nil] at hlt
        omega
    | cons first between => exact ⟨first, between, rfl, hrest⟩

/-- A cut is the first one if the pattern starts with a character that does not occur to
the left. -/
theorem firstCut_of_not_mem {more : List Char} (hmem : c ∉ before) :
    FirstCut (c :: more) (before ++ (c :: more) ++ after) before after where
  eq := rfl
  le := by
    intro other rest heq
    by_contra hlt
    obtain ⟨first, between, rfl, hrest⟩ := exists_between heq (Nat.lt_of_not_le hlt)
    obtain rfl : c = first := (List.cons.inj hrest).1
    exact hmem (by simp)

theorem firstCut_singleton_iff :
    FirstCut [c] text before after ↔ text = before ++ c :: after ∧ c ∉ before := by
  constructor
  · intro hcut
    refine ⟨by simpa using hcut.eq, fun hmem => ?_⟩
    obtain ⟨first, last, rfl⟩ := List.append_of_mem hmem
    have hle := hcut.le first (last ++ c :: after) (by simp [hcut.eq])
    simp only [List.length_append, List.length_cons] at hle
    omega
  · rintro ⟨rfl, hmem⟩
    have hcut : FirstCut [c] (before ++ [c] ++ after) before after := firstCut_of_not_mem hmem
    simpa using hcut

theorem splitFirst?_singleton (hmem : c ∉ before) :
    splitFirst? [c] (before ++ c :: after) = some (before, after) :=
  splitFirst?_eq_some_iff.mpr (firstCut_singleton_iff.mpr ⟨rfl, hmem⟩)

theorem splitFirst?_singleton_of_not_mem (hmem : c ∉ text) : splitFirst? [c] text = none :=
  splitFirst?_eq_none_iff.mpr (mt singleton_infix_iff.mp hmem)

theorem afterStart?_eq_none (hstart : ¬ pattern <+: text) :
    afterStart? pattern text = none :=
  if_neg (mt List.isPrefixOf_iff_prefix.mp hstart)

/-- The first cut at a doubled character: the text to the left has no such pair, and it
does not end in the character, which would then belong to an earlier pair. -/
theorem firstCut_pair_iff :
    FirstCut [c, c] text before after ↔
      text = before ++ c :: c :: after ∧ ¬ [c, c] <:+: before ∧ before.getLast? ≠ some c := by
  constructor
  · intro hcut
    refine ⟨by simpa using hcut.eq, fun hoccurs => ?_, fun hlast => ?_⟩
    · obtain ⟨first, last, rfl⟩ := infix_iff_exists.mp hoccurs
      have hle := hcut.le first (last ++ c :: c :: after) (by simp [hcut.eq])
      simp only [List.length_append, List.length_cons] at hle
      omega
    · obtain ⟨first, rfl⟩ := List.getLast?_eq_some_iff.mp hlast
      have hle := hcut.le first (c :: after) (by simp [hcut.eq])
      simp only [List.length_append, List.length_cons] at hle
      omega
  · rintro ⟨rfl, hoccurs, hlast⟩
    refine ⟨by simp, ?_⟩
    intro other rest heq
    by_contra hlt
    have heq : before ++ [c, c] ++ after = other ++ [c, c] ++ rest := by simpa using heq
    obtain ⟨first, between, rfl, hrest⟩ := exists_between heq (Nat.lt_of_not_le hlt)
    cases between with
    | nil =>
        obtain rfl : c = first := (List.cons.inj hrest).1
        simp at hlast
    | cons second between =>
        simp only [List.cons_append, List.nil_append, List.cons.injEq] at hrest
        obtain ⟨rfl, rfl, -⟩ := hrest
        exact hoccurs (infix_iff_exists.mpr ⟨other, between, by simp⟩)

/-! ## Finding the last cut -/

theorem splitLast?_eq_none_iff : splitLast? pattern text = none ↔ ¬ pattern <:+: text := by
  induction text with
  | nil => cases pattern <;> simp [splitLast?]
  | cons c rest ih =>
      rw [List.infix_cons_iff, ← List.isPrefixOf_iff_prefix, splitLast?]
      cases hrest : splitLast? pattern rest with
      | none =>
          have hnone := ih.mp hrest
          simp [hnone]
      | some parts =>
          have hsome : pattern <:+: rest := by
            by_contra hnone
            rw [ih.mpr hnone] at hrest
            contradiction
          simp [hsome]

theorem lastCut_of_splitLast? (hsplit : splitLast? pattern text = some (before, after)) :
    LastCut pattern text before after := by
  refine ⟨eq_of_splitLast? hsplit, ?_⟩
  intro other rest heq
  induction text generalizing before other with
  | nil =>
      obtain ⟨rfl, -⟩ : other = [] ∧ pattern = [] ∧ rest = [] := by simpa using heq
      exact Nat.zero_le _
  | cons c tail ih =>
      rw [splitLast?] at hsplit
      cases other with
      | nil => exact Nat.zero_le _
      | cons d more =>
          obtain ⟨-, htail⟩ := List.cons.inj heq
          cases hfound : splitLast? pattern tail with
          | none =>
              exact absurd (infix_iff_exists.mpr ⟨more, rest, htail⟩)
                (splitLast?_eq_none_iff.mp hfound)
          | some parts =>
              rw [hfound] at hsplit
              obtain ⟨rfl, rfl⟩ := Prod.ext_iff.mp (Option.some.inj hsplit)
              exact Nat.succ_le_succ (ih hfound more htail)

theorem splitLast?_eq_some_iff :
    splitLast? pattern text = some (before, after) ↔ LastCut pattern text before after := by
  refine ⟨lastCut_of_splitLast?, fun hcut => ?_⟩
  cases hsplit : splitLast? pattern text with
  | none =>
      exact absurd (infix_iff_exists.mpr ⟨before, after, hcut.eq⟩)
        (splitLast?_eq_none_iff.mp hsplit)
  | some parts =>
      obtain ⟨rfl, rfl⟩ := hcut.unique (lastCut_of_splitLast? hsplit)
      rfl

/-- A cut is the last one if the pattern is a character that does not occur to the
right. -/
theorem lastCut_of_not_mem (hmem : c ∉ after) :
    LastCut [c] (before ++ c :: after) before after where
  eq := by simp
  le := by
    intro other rest heq
    by_contra hlt
    have heq : other ++ [c] ++ rest = before ++ [c] ++ after := by simpa using heq.symm
    obtain ⟨first, between, -, hrest⟩ := exists_between heq (Nat.lt_of_not_le hlt)
    obtain ⟨-, rfl⟩ := List.cons.inj hrest
    exact hmem (by simp)

/-- A cut is the last one if the second character of the pattern does not occur behind it:
a later occurrence would have to hold it once more. -/
theorem lastCut_of_second {d : Char} {more : List Char} (hmem : d ∉ more ++ after) :
    LastCut (c :: d :: more) (before ++ (c :: d :: more) ++ after) before after where
  eq := rfl
  le := by
    intro other rest heq
    by_contra hlt
    obtain ⟨first, between, -, hrest⟩ := exists_between heq.symm (Nat.lt_of_not_le hlt)
    have hbehind : d :: (more ++ after) = between ++ c :: d :: (more ++ rest) := by
      simpa using (List.cons.inj hrest).2
    cases between with
    | nil =>
        obtain ⟨-, htail⟩ := List.cons.inj hbehind
        exact hmem (by simp [htail])
    | cons second between =>
        obtain ⟨-, htail⟩ := List.cons.inj hbehind
        exact hmem (by simp [htail])

theorem splitLast?_singleton (hmem : c ∉ after) :
    splitLast? [c] (before ++ c :: after) = some (before, after) :=
  splitLast?_eq_some_iff.mpr (lastCut_of_not_mem hmem)

end ServerRender.Text
