import Mathlib.Tactic.SplitIfs
import ServerRender.Proofs.Text.Units
import ServerRender.Script.Token
import ServerRender.Template

/-!
# Values as string literals

The filter `json` writes a value with the escapes of JSON, and the engine reads the script
by the rules of its own literals.  The two grammars meet in a single step: what is written
for one character is read as that character and nothing more.  By induction a literal is
read as its value and ends at its last quote, whatever the value is and whatever follows.
-/

namespace ServerRender.Script.Lexeme

open Text

variable {fuel size count : Nat} {content before : List UInt16} {position : Position}
variable {quote c : Char} {text : List Char}

/-- The step of `readText` at an escape. -/
theorem readText_escape (htext : text ≠ [])
    (hescape : readEscape false text = (.ok content, size)) :
    readText quote (fuel + 1) before count position ('\\' :: text) =
      readText quote fuel (content.reverse ++ before) (count + size + 1)
        (advance position (('\\' :: text).take (size + 1))) (text.drop size) := by
  rw [readText]
  · simp only [hescape]
  · simpa using htext

/-- The step of `readText` at a character that stands for itself. -/
theorem readText_raw (hslash : c ≠ '\\') (hquote : c ≠ quote) (hfeed : c ≠ '\n')
    (hreturn : c ≠ '\x0d') :
    readText quote (fuel + 1) before count position (c :: text) =
      readText quote fuel ((unitsOfChar c).reverse ++ before) (count + 1)
        (advance position [c]) text := by
  rw [readText]
  · simp only [if_neg hquote, hfeed, hreturn, decide_false, Bool.or_self, Bool.false_eq_true,
      if_false]
  · exact fun hc => absurd hc hslash
  · exact fun hc => hslash hc

/-- The four digits of a control character. -/
theorem readEscape_control (hc : c.toNat < 0x20) (rest : List Char) :
    readEscape false ('u' :: '0' :: '0' :: Nat.digitChar (c.toNat / 16) ::
      Nat.digitChar (c.toNat % 16) :: rest) = (.ok (unitsOfChar c), 5) := by
  have hdigits : ∀ code < 0x20, valueIn 16
      ['0', '0', Nat.digitChar (code / 16), Nat.digitChar (code % 16)] = code ∧
      (['0', '0', Nat.digitChar (code / 16), Nat.digitChar (code % 16)].all fun d =>
        (digitIn? 16 d).isSome) = true := by decide
  obtain ⟨hvalue, hhex⟩ := hdigits c.toNat hc
  have hone : c.toNat < 0x10000 := by omega
  rw [readEscape]
  · simp [hvalue, hhex, unitsOfChar, hone]
  · simp

/-- A character is written as itself if it may stand in a literal, and otherwise as an
escape that is read as the character.  Neither way writes a control character. -/
theorem escapedChar_cases (c : Char) :
    (Json.escapedChar c = [c] ∧ c ≠ '"' ∧ c ≠ '\\' ∧ 0x20 ≤ c.toNat) ∨
      ∃ escape, Json.escapedChar c = '\\' :: escape ∧ escape ≠ [] ∧
        (∀ d ∈ escape, 0x20 ≤ d.toNat) ∧
        ∀ rest, readEscape false (escape ++ rest) = (.ok (unitsOfChar c), escape.length) := by
  unfold Json.escapedChar
  split_ifs with hquote hslash hback htab hfeed hform hreturn hcontrol
  · exact .inr ⟨['"'], rfl, by simp, by simp, fun rest => by subst hquote; rfl⟩
  · exact .inr ⟨['\\'], rfl, by simp, by simp, fun rest => by subst hslash; rfl⟩
  · exact .inr ⟨['b'], rfl, by simp, by simp, fun rest => by subst hback; rfl⟩
  · exact .inr ⟨['t'], rfl, by simp, by simp, fun rest => by subst htab; rfl⟩
  · exact .inr ⟨['n'], rfl, by simp, by simp, fun rest => by subst hfeed; rfl⟩
  · exact .inr ⟨['f'], rfl, by simp, by simp, fun rest => by subst hform; rfl⟩
  · exact .inr ⟨['r'], rfl, by simp, by simp, fun rest => by subst hreturn; rfl⟩
  · have hdigit : ∀ digit < 0x10, 0x20 ≤ (Nat.digitChar digit).toNat := by decide
    have hhigh := hdigit (c.toNat / 16) (by omega)
    have hlow := hdigit (c.toNat % 16) (by omega)
    exact .inr ⟨_, rfl, by simp, by simp [hhigh, hlow], readEscape_control hcontrol⟩
  · exact .inl ⟨rfl, hquote, hslash, Nat.le_of_not_lt hcontrol⟩

theorem readText_escapedChar (c : Char) (rest : List Char) :
    readText '"' (fuel + 1) before count position (Json.escapedChar c ++ rest) =
      readText '"' fuel ((unitsOfChar c).reverse ++ before)
        (count + (Json.escapedChar c).length) (advance position (Json.escapedChar c)) rest := by
  rcases escapedChar_cases c with ⟨hraw, hquote, hslash, hprint⟩ | ⟨escape, hescaped, hne, -, hread⟩
  · have hfeed : c ≠ '\n' := by rintro rfl; contradiction
    have hreturn : c ≠ '\x0d' := by rintro rfl; contradiction
    rw [hraw, List.singleton_append, readText_raw hslash hquote hfeed hreturn]
    rfl
  · have htext : escape ++ rest ≠ [] := by simp [hne]
    rw [hescaped, List.cons_append, readText_escape htext (hread rest)]
    simp [Nat.add_assoc]

/-- The room is one step for each character of the value and one for the last quote. -/
theorem readText_literal (value following : List Char) (hfuel : value.length < fuel) :
    readText '"' fuel before count position
        (value.flatMap Json.escapedChar ++ '"' :: following) =
      .ok (before.reverse ++ value.flatMap unitsOfChar,
        count + (value.flatMap Json.escapedChar).length + 1) := by
  obtain ⟨fuel, rfl⟩ : ∃ more, fuel = more + 1 := ⟨fuel - 1, by omega⟩
  induction value generalizing fuel before count position with
  | nil => simp [readText]
  | cons c value ih =>
      rw [List.length_cons] at hfuel
      obtain ⟨fuel, rfl⟩ : ∃ more, fuel = more + 1 := ⟨fuel - 1, by omega⟩
      rw [List.flatMap_cons, List.append_assoc, readText_escapedChar, ih _ (by omega)]
      simp [Nat.add_assoc]

/-- A literal is one token, and what follows it does not matter. -/
theorem read_literal {room : Nat} (value : String) (following : List Char)
    (hroom : value.toList.length < room) (position : Position) (divides inTemplate : Bool) :
    read room position divides inTemplate (Json.literal value.toList ++ following) =
      (.text (units value), (Json.literal value.toList).length) := by
  have hname : isNameStart '"' = false := by decide +kernel
  have hlength : 1 + (value.toList.flatMap Json.escapedChar).length + 1 =
      (Json.literal value.toList).length := by
    simp [Json.literal, Nat.add_comm]
  rw [Json.literal, List.cons_append, List.append_assoc, List.singleton_append]
  simp only [read, List.headD_cons, List.tail_cons, hname, readText_literal _ _ hroom, hlength]
  rfl

/-- Among the tokens of a script a literal is the token of its value, and the tokens go on
with what follows the literal. -/
theorem readAll_literal (value : String) (following : List Char)
    (hroom : value.toList.length ≤ fuel) (startsLine divides : Bool) (braces : List Bool)
    (tokens : List PlacedToken) :
    readAll (fuel + 1) position startsLine divides braces tokens
        (Json.literal value.toList ++ following) =
      readAll fuel (advance position (Json.literal value.toList)) false true braces
        (⟨.text (units value), position, startsLine, Json.literal value.toList ++ following⟩ ::
          tokens) following := by
  have hread := read_literal value following (Nat.lt_succ_of_le hroom) position divides
    (braces.headD false)
  have hstart : Json.literal value.toList ++ following =
      '"' :: (value.toList.flatMap Json.escapedChar ++ ['"'] ++ following) := rfl
  rw [readAll.eq_def]
  simp only [hstart]
  rw [← hstart, hread]
  simp only [List.take_left, List.drop_left]
  rfl

end ServerRender.Script.Lexeme

namespace ServerRender.Template

/-- A literal has no control characters, and so no line ends. -/
theorem le_toNat_of_mem_literal {value : List Char} {c : Char} (hc : c ∈ Json.literal value) :
    0x20 ≤ c.toNat := by
  simp only [Json.literal, List.mem_cons, List.mem_append, List.mem_flatMap, List.not_mem_nil,
    or_false] at hc
  rcases hc with rfl | ⟨d, -, hd⟩ | rfl
  · decide
  · rcases Script.Lexeme.escapedChar_cases d with
      ⟨hraw, -, -, hprint⟩ | ⟨escape, hescaped, -, hprint, -⟩
    · obtain rfl : c = d := by simpa [hraw] using hd
      exact hprint
    · rw [hescaped] at hd
      rcases List.mem_cons.mp hd with rfl | hmem
      · decide
      · exact hprint c hmem
  · decide

/-- A rendered value stands between what is rendered before it and behind it. -/
theorem wrapperScript_eq_append {template : Template} {earlier later : List Segment}
    {segment : Segment} (hsegments : template.segments = earlier ++ segment :: later)
    (values : Values) :
    (wrapperScript template values).toList =
      (harnessHead.toList ++ earlier.flatMap (Segment.render values)) ++
        (segment.render values ++
          (later.flatMap (Segment.render values) ++ harnessTail.toList)) := by
  simp [wrapperScript, render, hsegments]

/-- A literal cannot be left from within: whatever the value is and whatever follows, the
literal is one token of the script, its content is the value, and it ends at its last
quote.  A script holds the literal of each value between the texts of the other segments,
and its tokens go on behind it with what was written there. -/
theorem json_literal_confined :
    (∀ (value : String) (following : List Char) (room : Nat) (position : Script.Position)
      (divides inTemplate : Bool), value.toList.length < room →
        Script.Lexeme.read room position divides inTemplate
            (Json.literal value.toList ++ following) =
          (.text (Text.units value), (Json.literal value.toList).length)) ∧
    (∀ value : String, Text.ofUnits (Text.units value) = value ∧
      '\n' ∉ Json.literal value.toList ∧ '\x0d' ∉ Json.literal value.toList) ∧
    ∀ (template : Template) (values : Values) (earlier later : List Segment) (name : Variable),
      template.segments = earlier ++ .placeholder name .json :: later →
      ∃ front back : List Char,
        front = harnessHead.toList ++ earlier.flatMap (Segment.render values) ∧
        back = later.flatMap (Segment.render values) ++ harnessTail.toList ∧
        (wrapperScript template values).toList =
          front ++ (Json.literal (values.get name).toList ++ back) ∧
        ∀ (fuel : Nat) (position : Script.Position) (startsLine divides : Bool)
          (braces : List Bool) (tokens : List Script.PlacedToken),
          (values.get name).toList.length ≤ fuel →
          Script.Lexeme.readAll (fuel + 1) position startsLine divides braces tokens
              (Json.literal (values.get name).toList ++ back) =
            Script.Lexeme.readAll fuel
              (Script.Lexeme.advance position (Json.literal (values.get name).toList)) false true
              braces
              (⟨.text (Text.units (values.get name)), position, startsLine,
                Json.literal (values.get name).toList ++ back⟩ :: tokens) back := by
  refine ⟨fun value following room position divides inTemplate hroom => ?_, fun value => ?_,
    fun template values earlier later name hsegments => ?_⟩
  · exact Script.Lexeme.read_literal value following hroom position divides inTemplate
  · refine ⟨Text.ofUnits_units value, fun hmem => ?_, fun hmem => ?_⟩
    · exact absurd (le_toNat_of_mem_literal hmem) (by decide)
    · exact absurd (le_toNat_of_mem_literal hmem) (by decide)
  · refine ⟨_, _, rfl, rfl, wrapperScript_eq_append hsegments values, ?_⟩
    intro fuel position startsLine divides braces tokens hroom
    exact Script.Lexeme.readAll_literal _ _ hroom startsLine divides braces tokens

/-- The quote in the value is not the end of the literal, and the braces are no tag. -/
theorem read_literal_of_quote :
    Script.Lexeme.read 13 ⟨1, 1⟩ false false
        "\"\\\"\\\\\\n\x7b\x7bprops\x7d\x7d\"; f()".toList =
      (.text (Text.units "\"\\\n\x7b\x7bprops\x7d\x7d"), 17) ∧
    ∃ front back : List Char, back = ')' :: harnessTail.toList ∧
      (wrapperScript ⟨[.text "f(".toList, .placeholder .urlPath .json, .text [')']]⟩
          ⟨"Page", "\x7b\x7bprops\x7d\x7d\"", "7"⟩).toList =
        front ++ ("\"\x7b\x7bprops\x7d\x7d\\\"\"".toList ++ back) := by
  refine ⟨?_, ?_⟩
  · exact json_literal_confined.1 "\"\\\n\x7b\x7bprops\x7d\x7d" "; f()".toList 13 ⟨1, 1⟩ false false
      (by decide)
  · obtain ⟨front, back, -, hback, hscript, -⟩ := json_literal_confined.2.2
      ⟨[.text "f(".toList, .placeholder .urlPath .json, .text [')']]⟩
      ⟨"Page", "\x7b\x7bprops\x7d\x7d\"", "7"⟩ [.text "f(".toList] [.text [')']] .urlPath rfl
    exact ⟨front, back, hback, hscript⟩

end ServerRender.Template
