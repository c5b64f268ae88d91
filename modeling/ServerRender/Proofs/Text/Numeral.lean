import ServerRender.Text.Numeral

/-!
# Written numbers

A number is written in digits alone, and its digits are read as the number again.  What
else is read is known too: digits with a plus sign before them or with leading zeros, and
nothing that is too large.
-/

namespace ServerRender.Text

theorem digits?_of_isDigit {text : List Char} (hne : text ≠ [])
    (hdigit : ∀ c ∈ text, c.isDigit = true) : digits? text = some (Nat.ofDigitChars 10 text 0) := by
  have hfold : ∀ sum, text.foldl (fun sum c => do return 10 * (← sum) + (← digitValue? c))
      (some sum) = some (Nat.ofDigitChars 10 text sum) := by
    clear hne
    induction text with
    | nil => exact fun sum => rfl
    | cons c rest ih =>
      intro sum
      have hvalue : digitValue? c = some (c.toNat - '0'.toNat) :=
        if_pos (hdigit c List.mem_cons_self)
      rw [List.foldl_cons, hvalue]
      exact ih (fun d hd => hdigit d (List.mem_cons_of_mem c hd)) _
  rw [digits?, if_neg (mt List.isEmpty_iff.mp hne), hfold]

theorem digits?_of_not_isDigit {text : List Char} {c : Char} (hc : c ∈ text)
    (hdigit : c.isDigit = false) : digits? text = none := by
  have hnone : ∀ rest : List Char,
      rest.foldl (fun sum c => do return 10 * (← sum) + (← digitValue? c)) none = none := by
    intro rest
    induction rest with
    | nil => rfl
    | cons d rest ih => exact ih
  obtain ⟨before, after, rfl⟩ := List.append_of_mem hc
  have hvalue : digitValue? c = none := by simp [digitValue?, hdigit]
  rw [digits?, if_neg (by simp), List.foldl_append, List.foldl_cons, hvalue]
  simp only [Option.pure_def, Option.bind_eq_bind, Option.bind_none, Option.bind_fun_none]
  exact hnone after

/-- A value is read from digits alone, and it is theirs. -/
theorem digits?_eq_some_iff {text : List Char} {value : Nat} :
    digits? text = some value ↔
      text ≠ [] ∧ (∀ c ∈ text, c.isDigit = true) ∧ Nat.ofDigitChars 10 text 0 = value := by
  constructor
  · intro hdigits
    have hne : text ≠ [] := by
      rintro rfl
      contradiction
    have hdigit : ∀ c ∈ text, c.isDigit = true := by
      intro c hc
      cases hdigit : c.isDigit with
      | true => rfl
      | false =>
        rw [digits?_of_not_isDigit hc hdigit] at hdigits
        contradiction
    rw [digits?_of_isDigit hne hdigit] at hdigits
    exact ⟨hne, hdigit, Option.some.inj hdigits⟩
  · rintro ⟨hne, hdigit, rfl⟩
    exact digits?_of_isDigit hne hdigit

def numeral (n : UInt32) : List Char :=
  (toString n.toNat).toList

theorem numeral_eq_toDigits (n : UInt32) : numeral n = Nat.toDigits 10 n.toNat := by
  simp [numeral]

theorem isDigit_of_mem_numeral {n : UInt32} {c : Char} (hc : c ∈ numeral n) :
    c.isDigit = true := by
  rw [numeral_eq_toDigits] at hc
  exact Nat.isDigit_of_mem_toDigits (by decide) (by decide) hc

theorem not_mem_numeral {c : Char} (hc : c.isDigit = false) (n : UInt32) : c ∉ numeral n := by
  intro hmem
  rw [isDigit_of_mem_numeral hmem] at hc
  contradiction

theorem numeral_ne_nil (n : UInt32) : numeral n ≠ [] := by
  rw [numeral_eq_toDigits]
  exact Nat.toDigits_ne_nil

/-- A number as one may write it: digits, with a plus sign before them or without. -/
def Denotes (text : List Char) (n : UInt32) : Prop :=
  ∃ digits, digits ≠ [] ∧ (∀ c ∈ digits, c.isDigit = true) ∧
    Nat.ofDigitChars 10 digits 0 = n.toNat ∧ (text = digits ∨ text = '+' :: digits)

theorem numeral?_eq_some_iff {bound value : Nat} {text : List Char} :
    numeral? bound text = some value ↔
      value < bound ∧ ∃ digits, digits? digits = some value ∧
        (text = digits ∨ text = '+' :: digits) := by
  have hplus : ∀ digits rest, digits? digits = some value → digits ≠ '+' :: rest := by
    rintro - rest hdigits rfl
    have hdigit := (digits?_eq_some_iff.mp hdigits).2.1 '+' List.mem_cons_self
    contradiction
  unfold numeral?
  split
  · next rest =>
    simp only [Option.filter_eq_some_iff, decide_eq_true_eq]
    constructor
    · rintro ⟨hdigits, hlt⟩
      exact ⟨hlt, rest, hdigits, .inr rfl⟩
    · rintro ⟨hlt, digits, hdigits, rfl | htext⟩
      · exact absurd rfl (hplus _ rest hdigits)
      · obtain rfl := (List.cons.inj htext).2
        exact ⟨hdigits, hlt⟩
  · next hsign =>
    simp only [Option.filter_eq_some_iff, decide_eq_true_eq]
    constructor
    · rintro ⟨hdigits, hlt⟩
      exact ⟨hlt, text, hdigits, .inl rfl⟩
    · rintro ⟨hlt, digits, hdigits, rfl | rfl⟩
      · exact ⟨hdigits, hlt⟩
      · exact absurd rfl (hsign digits)

/-- A number is read from exactly what denotes it. -/
theorem readUInt32?_eq_some_iff {text : List Char} {n : UInt32} :
    readUInt32? text = some n ↔ Denotes text n := by
  simp only [readUInt32?, Option.map_eq_some_iff, numeral?_eq_some_iff]
  constructor
  · rintro ⟨value, ⟨hlt, digits, hdigits, htext⟩, rfl⟩
    obtain ⟨hne, hdigit, hvalue⟩ := digits?_eq_some_iff.mp hdigits
    refine ⟨digits, hne, hdigit, ?_, htext⟩
    rw [hvalue, UInt32.toNat_ofNat_of_lt' hlt]
  · rintro ⟨digits, hne, hdigit, hvalue, htext⟩
    exact ⟨n.toNat, ⟨n.toNat_lt, digits, digits?_eq_some_iff.mpr ⟨hne, hdigit, hvalue⟩, htext⟩,
      UInt32.ofNat_toNat⟩

/-- A written number is read again. -/
@[simp]
theorem readUInt32?_numeral (n : UInt32) : readUInt32? (numeral n) = some n := by
  refine readUInt32?_eq_some_iff.mpr ⟨numeral n, numeral_ne_nil n, ?_, ?_, .inl rfl⟩
  · exact fun c hc => isDigit_of_mem_numeral hc
  · rw [numeral_eq_toDigits, Nat.ofDigitChars_toDigits (by decide) (by decide)]

end ServerRender.Text
