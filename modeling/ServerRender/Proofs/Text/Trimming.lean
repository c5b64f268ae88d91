import Mathlib.Data.List.TakeWhile
import ServerRender.Text.Blank

/-!
# Trimming

Trimming takes the blanks at both ends of a text away and nothing else.  A text whose ends
are no blanks is therefore what is left of exactly those texts that have it with any
blanks around it.
-/

namespace ServerRender.Text

theorem trimStart_append_of_blank {left : List Char} (hleft : ∀ c ∈ left, isBlank c = true)
    (text : List Char) : trimStart (left ++ text) = trimStart text :=
  List.dropWhile_append_of_pos hleft

theorem trimEnd_append_of_blank {right : List Char} (hright : ∀ c ∈ right, isBlank c = true)
    (text : List Char) : trimEnd (text ++ right) = trimEnd text := by
  have hreverse : ∀ c ∈ right.reverse, isBlank c = true := by simpa using hright
  rw [trimEnd, List.reverse_append, List.dropWhile_append_of_pos hreverse, trimEnd]

theorem trim_blank_append {left : List Char} (hleft : ∀ c ∈ left, isBlank c = true)
    (text : List Char) : trim (left ++ text) = trim text := by
  rw [trim, trimStart_append_of_blank hleft, trim]

theorem trim_append_blank {right : List Char} (hright : ∀ c ∈ right, isBlank c = true)
    (text : List Char) : trim (text ++ right) = trim text := by
  rw [trim, trimStart, List.dropWhile_append]
  split
  · next hnil =>
      have hblank : trimEnd (right.dropWhile isBlank) = [] := by
        rw [List.dropWhile_eq_nil_iff.2 hright]
        rfl
      rw [hblank, trim, trimStart, List.isEmpty_iff.1 hnil]
      rfl
  · exact trimEnd_append_of_blank hright _

/-- Blanks on either side of a text do not matter. -/
theorem trim_append_of_blank {left right : List Char} (hleft : ∀ c ∈ left, isBlank c = true)
    (hright : ∀ c ∈ right, isBlank c = true) (text : List Char) :
    trim (left ++ text ++ right) = trim text := by
  rw [trim_append_blank hright, trim_blank_append hleft]

/-- Trimming takes blanks away and nothing else. -/
theorem exists_eq_append_trim (text : List Char) :
    ∃ left right, (∀ c ∈ left, isBlank c = true) ∧ (∀ c ∈ right, isBlank c = true) ∧
      text = left ++ trim text ++ right := by
  refine ⟨text.takeWhile isBlank, ((trimStart text).reverse.takeWhile isBlank).reverse, ?_, ?_, ?_⟩
  · exact fun c hc => List.mem_takeWhile_imp hc
  · exact fun c hc => List.mem_takeWhile_imp (List.mem_reverse.1 hc)
  · rw [trim, trimEnd, List.append_assoc, ← List.reverse_append, List.takeWhile_append_dropWhile,
      List.reverse_reverse, trimStart, List.takeWhile_append_dropWhile]

/-- A text without blanks at its ends stays as it is. -/
theorem trim_eq_self {text : List Char} (hfirst : ∀ c ∈ text.head?, isBlank c = false)
    (hlast : ∀ c ∈ text.getLast?, isBlank c = false) : trim text = text := by
  have hstart : trimStart text = text := by
    cases text with
    | nil => rfl
    | cons c rest => simp [trimStart, hfirst c rfl]
  have hend : text.reverse.dropWhile isBlank = text.reverse := by
    rw [← List.head?_reverse] at hlast
    cases hreverse : text.reverse with
    | nil => rfl
    | cons c rest =>
      rw [hreverse] at hlast
      simp [hlast c rfl]
  rw [trim, hstart, trimEnd, hend, List.reverse_reverse]

theorem isBlank_of_isDigit {c : Char} (hc : c.isDigit = true) : isBlank c = false := by
  have hcode : 48 ≤ c.toNat ∧ c.toNat ≤ 57 := by
    simpa [Char.isDigit, UInt32.le_iff_toNat_le] using hc
  simp [isBlank]
  omega

/-- A text with any blanks around it. -/
def Padded (core text : List Char) : Prop :=
  ∃ left right, (∀ c ∈ left, isBlank c = true) ∧ (∀ c ∈ right, isBlank c = true) ∧
    text = left ++ core ++ right

theorem padded_iff_trim_eq {core text : List Char} (hcore : trim core = core) :
    Padded core text ↔ trim text = core := by
  constructor
  · rintro ⟨left, right, hleft, hright, rfl⟩
    rw [trim_append_of_blank hleft hright, hcore]
  · rintro rfl
    exact exists_eq_append_trim text

end ServerRender.Text
