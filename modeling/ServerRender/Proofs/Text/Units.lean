import ServerRender.Text.Units

/-!
# Characters from their units

A character is one unit that is no surrogate, or a high surrogate and a low one.  Units
can therefore be read from left to right without looking ahead, and the units of a text
give the text back.
-/

namespace ServerRender.Text

/-- A character lies below the surrogates or above them. -/
theorem toNat_lt_or_le (c : Char) :
    c.toNat < 0xD800 ∨ 0xE000 ≤ c.toNat ∧ c.toNat < 0x110000 := by
  rcases c.valid with hlow | ⟨hhigh, hbound⟩
  · exact .inl hlow
  · exact .inr ⟨hhigh, hbound⟩

theorem isHighSurrogate_ofNat {code : Nat} (hcode : code < 0x10000) :
    isHighSurrogate (.ofNat code) = true ↔ 0xD800 ≤ code ∧ code < 0xDC00 := by
  simp [isHighSurrogate, UInt16.le_iff_toNat_le, UInt16.lt_iff_toNat_lt, Nat.mod_eq_of_lt hcode]

theorem isLowSurrogate_ofNat {code : Nat} (hcode : code < 0x10000) :
    isLowSurrogate (.ofNat code) = true ↔ 0xDC00 ≤ code ∧ code < 0xE000 := by
  simp [isLowSurrogate, UInt16.le_iff_toNat_le, UInt16.lt_iff_toNat_lt, Nat.mod_eq_of_lt hcode]

theorem charsOfUnits_of_not_isHighSurrogate {unit : UInt16} (hunit : isHighSurrogate unit = false)
    (rest : List UInt16) : charsOfUnits (unit :: rest) = charsOfUnit unit ++ charsOfUnits rest := by
  cases rest with
  | nil => simp [charsOfUnits]
  | cons next rest => simp [charsOfUnits, hunit]

theorem charsOfUnits_unitsOfChar_append (c : Char) (rest : List UInt16) :
    charsOfUnits (unitsOfChar c ++ rest) = c :: charsOfUnits rest := by
  have hvalid := toNat_lt_or_le c
  unfold unitsOfChar
  by_cases hone : c.toNat < 0x10000
  · have hhigh : isHighSurrogate (.ofNat c.toNat) = false := by
      rw [Bool.eq_false_iff, Ne, isHighSurrogate_ofNat hone]
      omega
    have hlow : isLowSurrogate (.ofNat c.toNat) = false := by
      rw [Bool.eq_false_iff, Ne, isLowSurrogate_ofNat hone]
      omega
    simp only [if_pos hone, List.cons_append, List.nil_append]
    rw [charsOfUnits_of_not_isHighSurrogate hhigh, charsOfUnit, hhigh, hlow]
    simp [Nat.mod_eq_of_lt hone]
  · have hhigh : 0xD800 + (c.toNat - 0x10000) / 0x400 < 0xDC00 := by omega
    have hlow : 0xDC00 + (c.toNat - 0x10000) % 0x400 < 0xE000 := by omega
    have hpair : isHighSurrogate (.ofNat (0xD800 + (c.toNat - 0x10000) / 0x400)) = true ∧
        isLowSurrogate (.ofNat (0xDC00 + (c.toNat - 0x10000) % 0x400)) = true := by
      rw [isHighSurrogate_ofNat (by omega), isLowSurrogate_ofNat (by omega)]
      omega
    have hcode : 0x10000 + (c.toNat - 0x10000) / 0x400 * 0x400 + (c.toNat - 0x10000) % 0x400 =
        c.toNat := by omega
    simp only [if_neg hone, List.cons_append, List.nil_append]
    rw [charsOfUnits, hpair.1, hpair.2]
    simp only [Bool.and_self, if_true, UInt16.toNat_ofNat']
    rw [Nat.mod_eq_of_lt (by omega), Nat.mod_eq_of_lt (by omega), Nat.add_sub_cancel_left,
      Nat.add_sub_cancel_left, hcode, Char.ofNat_toNat]

theorem charsOfUnits_flatMap_unitsOfChar (text : List Char) :
    charsOfUnits (text.flatMap unitsOfChar) = text := by
  induction text with
  | nil => rfl
  | cons c rest ih => rw [List.flatMap_cons, charsOfUnits_unitsOfChar_append, ih]

@[simp]
theorem ofUnits_units (text : String) : ofUnits (units text) = text := by
  rw [ofUnits, units, charsOfUnits_flatMap_unitsOfChar, String.ofList_toList]

end ServerRender.Text
