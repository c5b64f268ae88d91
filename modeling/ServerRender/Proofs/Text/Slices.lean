import ServerRender.Proofs.Text.Cuts

/-!
# Slices by bytes

A text in UTF-8 may be cut at a byte only if a character starts or the text ends there.  The
functions of this module find separators by the byte at which they start, and cut texts at
bytes; a cut anywhere else ends the work and gives nothing at all.  Cuts at the separators
that were found are all in order, so that these functions do what those by characters do.
-/

namespace ServerRender.Text

variable {text before after : List Char} {c : Char} {byte : Nat}

def byteSize (text : List Char) : Nat :=
  (String.ofList text).utf8ByteSize

@[simp]
theorem byteSize_nil : byteSize [] = 0 := rfl

@[simp]
theorem byteSize_append (text more : List Char) :
    byteSize (text ++ more) = byteSize text + byteSize more := by
  rw [byteSize, String.ofList_append, String.utf8ByteSize_append]
  rfl

@[simp]
theorem byteSize_cons (c : Char) (rest : List Char) :
    byteSize (c :: rest) = c.utf8Size + byteSize rest := by
  rw [byteSize, String.ofList_cons, String.utf8ByteSize_append, String.utf8ByteSize_singleton]
  rfl

/-- The two parts of a text at a byte, which must not lie behind its end nor within one of its
characters. -/
def cutAtByte? : Nat → List Char → Option (List Char × List Char)
  | byte, [] => if byte = 0 then some ([], []) else none
  | byte, c :: rest =>
    if byte = 0 then some ([], c :: rest)
    else if c.utf8Size ≤ byte then
      (cutAtByte? (byte - c.utf8Size) rest).map fun parts => (c :: parts.1, parts.2)
    else none

theorem cutAtByte?_zero (text : List Char) : cutAtByte? 0 text = some ([], text) := by
  cases text <;> rfl

theorem cutAtByte?_append (before after : List Char) :
    cutAtByte? (byteSize before) (before ++ after) = some (before, after) := by
  induction before with
  | nil => exact cutAtByte?_zero after
  | cons c rest ih =>
    have hsize : 0 < c.utf8Size := Char.utf8Size_pos c
    rw [List.cons_append, byteSize_cons, cutAtByte?, if_neg (by omega), if_pos (by omega),
      Nat.add_sub_cancel_left, ih]
    rfl

theorem of_cutAtByte? (hcut : cutAtByte? byte text = some (before, after)) :
    text = before ++ after ∧ byteSize before = byte := by
  induction text generalizing byte before with
  | nil =>
    obtain ⟨hzero, hparts⟩ := (Option.ite_none_right_eq_some).mp hcut
    obtain ⟨rfl, rfl⟩ := Prod.ext_iff.mp (Option.some.inj hparts)
    exact ⟨rfl, hzero.symm⟩
  | cons c rest ih =>
    rw [cutAtByte?] at hcut
    split at hcut
    · next hzero =>
      obtain ⟨rfl, rfl⟩ := Prod.ext_iff.mp (Option.some.inj hcut)
      exact ⟨rfl, hzero.symm⟩
    · obtain ⟨hle, hcut⟩ := (Option.ite_none_right_eq_some).mp hcut
      obtain ⟨⟨first, last⟩, hrest, hparts⟩ := Option.map_eq_some_iff.mp hcut
      obtain ⟨rfl, rfl⟩ := Prod.ext_iff.mp hparts
      obtain ⟨rfl, hsize⟩ := ih hrest
      exact ⟨rfl, by rw [byteSize_cons, hsize]; omega⟩

/-- A text is cut exactly where one of its parts ends. -/
theorem cutAtByte?_eq_some_iff :
    cutAtByte? byte text = some (before, after) ↔
      text = before ++ after ∧ byteSize before = byte := by
  refine ⟨of_cutAtByte?, ?_⟩
  rintro ⟨rfl, rfl⟩
  exact cutAtByte?_append before after

/-- The bytes at which a text is cut are those between the characters of its string. -/
theorem isSome_cutAtByte?_iff :
    (cutAtByte? byte text).isSome ↔ String.Pos.Raw.IsValid (String.ofList text) ⟨byte⟩ := by
  simp only [Option.isSome_iff_exists, Prod.exists, cutAtByte?_eq_some_iff,
    String.Pos.Raw.isValid_iff_exists_append]
  constructor
  · rintro ⟨before, after, rfl, rfl⟩
    exact ⟨String.ofList before, String.ofList after, String.ofList_append, rfl⟩
  · rintro ⟨before, after, htext, hbyte⟩
    refine ⟨before.toList, after.toList, ?_, ?_⟩
    · rw [← String.toList_append, ← htext, String.toList_ofList]
    · rw [byteSize, String.ofList_toList]
      exact (congrArg String.Pos.Raw.byteIdx hbyte).symm

def sliceTo? (byte : Nat) (text : List Char) : Option (List Char) :=
  (cutAtByte? byte text).map Prod.fst

def sliceFrom? (byte : Nat) (text : List Char) : Option (List Char) :=
  (cutAtByte? byte text).map Prod.snd

theorem sliceTo?_append (before after : List Char) :
    sliceTo? (byteSize before) (before ++ after) = some before := by
  rw [sliceTo?, cutAtByte?_append]
  rfl

theorem sliceFrom?_append (before after : List Char) :
    sliceFrom? (byteSize before) (before ++ after) = some after := by
  rw [sliceFrom?, cutAtByte?_append]
  rfl

def firstByte? (c : Char) : List Char → Option Nat
  | [] => none
  | d :: rest => if d = c then some 0 else (firstByte? c rest).map (d.utf8Size + ·)

def lastByte? (c : Char) : List Char → Option Nat
  | [] => none
  | d :: rest =>
    match lastByte? c rest with
    | some byte => some (d.utf8Size + byte)
    | none => if d = c then some 0 else none

theorem firstByte?_eq (c : Char) (text : List Char) :
    firstByte? c text = (splitFirst? [c] text).map fun parts => byteSize parts.1 := by
  induction text with
  | nil => rfl
  | cons d rest ih =>
    rw [firstByte?, splitFirst?, ih]
    by_cases heq : d = c
    · simp [heq]
    · have hother : c ≠ d := Ne.symm heq
      simp [heq, hother, Function.comp_def]

theorem lastByte?_eq (c : Char) (text : List Char) :
    lastByte? c text = (splitLast? [c] text).map fun parts => byteSize parts.1 := by
  induction text with
  | nil => rfl
  | cons d rest ih =>
    rw [lastByte?, splitLast?, ih]
    cases splitLast? [c] rest with
    | some parts => simp
    | none =>
      by_cases heq : d = c
      · simp [heq]
      · have hother : c ≠ d := Ne.symm heq
        simp [heq, hother]

/-- The parts of a text around the separator that starts at a byte, if one was found.  Nothing
at all if a part is not there. -/
def around? (c : Char) (text : List Char) : Option Nat → Option (Option (List Char × List Char))
  | none => some none
  | some byte => do
    return some (← sliceTo? byte text, ← sliceFrom? (byte + c.utf8Size) text)

theorem around?_eq (text : List Char) {found : Option (List Char × List Char)}
    (hfound : ∀ parts, found = some parts → text = parts.1 ++ [c] ++ parts.2) :
    around? c text (found.map fun parts => byteSize parts.1) = some found := by
  cases found with
  | none => rfl
  | some parts =>
    have htext : text = parts.1 ++ [c] ++ parts.2 := hfound parts rfl
    have hto : sliceTo? (byteSize parts.1) text = some parts.1 := by
      rw [htext, List.append_assoc, sliceTo?_append]
    have hfrom : sliceFrom? (byteSize parts.1 + c.utf8Size) text = some parts.2 := by
      have hsize : byteSize parts.1 + c.utf8Size = byteSize (parts.1 ++ [c]) := by simp
      rw [hsize, htext, sliceFrom?_append]
    simp [around?, hto, hfrom]

theorem around?_firstByte? (c : Char) (text : List Char) :
    around? c text (firstByte? c text) = some (splitFirst? [c] text) := by
  rw [firstByte?_eq]
  exact around?_eq text fun parts hparts => eq_of_splitFirst? hparts

theorem around?_lastByte? (c : Char) (text : List Char) :
    around? c text (lastByte? c text) = some (splitLast? [c] text) := by
  rw [lastByte?_eq]
  exact around?_eq text fun parts hparts => eq_of_splitLast? hparts

/-- What follows a pattern at the start of a text, if it is there. -/
def withoutStart? (pattern text : List Char) : Option (Option (List Char)) :=
  if pattern.isPrefixOf text then (sliceFrom? (byteSize pattern) text).map some else some none

/-- What stands before a character at the end of a text, if it is there. -/
def withoutLast? (c : Char) (text : List Char) : Option (Option (List Char)) :=
  if text.getLast? = some c then (sliceTo? (byteSize text - c.utf8Size) text).map some
  else some none

theorem withoutStart?_eq (pattern text : List Char) :
    withoutStart? pattern text = some (afterStart? pattern text) := by
  unfold withoutStart? afterStart?
  split
  · next hstart =>
    obtain ⟨rest, rfl⟩ := List.isPrefixOf_iff_prefix.mp hstart
    rw [sliceFrom?_append, List.drop_left]
    rfl
  · rfl

theorem withoutLast?_append (c : Char) (front : List Char) :
    withoutLast? c (front ++ [c]) = some (some front) := by
  have hsize : byteSize (front ++ [c]) - c.utf8Size = byteSize front := by simp
  rw [withoutLast?, if_pos List.getLast?_concat, hsize, sliceTo?_append]
  rfl

theorem withoutLast?_of_ne (hlast : text.getLast? ≠ some c) :
    withoutLast? c text = some none :=
  if_neg hlast

end ServerRender.Text
