import ServerRender.Proofs.Template.Grammar

/-!
# Written segments

A list of segments is written by putting a tag in place of each placeholder.  What the
parser returns is in a normal form in which no two texts are adjacent and no brace at the
end of a text can run into a tag behind it.  The parser returns a list of segments for
exactly those snippets that it is written as, if it is in normal form, and for none
otherwise.
-/

namespace ServerRender.Template

open Text

/-- A text stands for itself, and a placeholder for a tag that spells it. -/
inductive Segment.Written : Segment → List Char → Prop
  | text (characters : List Char) : Written (.text characters) characters
  | placeholder {name : Variable} {filter : Filter} {tag : List Char}
      (hspells : Spells name filter tag) :
      Written (.placeholder name filter) (openTag ++ tag ++ closeTag)

theorem written_text_iff {characters part : List Char} :
    Segment.Written (.text characters) part ↔ part = characters := by
  constructor
  · rintro ⟨⟩
    rfl
  · rintro rfl
    exact .text _

theorem written_placeholder_iff {name : Variable} {filter : Filter} {part : List Char} :
    Segment.Written (.placeholder name filter) part ↔
      ∃ tag, Spells name filter tag ∧ part = openTag ++ tag ++ closeTag := by
  constructor
  · intro hwritten
    cases hwritten with
    | placeholder hspells => exact ⟨_, hspells, rfl⟩
  · rintro ⟨tag, hspells, rfl⟩
    exact .placeholder hspells

/-- What may stand next to each other: a placeholder before anything, a text only before
a placeholder, whose first brace it must not take away. -/
def Segment.MayPrecede : Segment → Segment → Prop
  | .text _, .text _ => False
  | .text characters, .placeholder _ _ => characters.getLast? ≠ some '\x7b'
  | .placeholder _ _, _ => True

structure Normal (segments : List Segment) : Prop where
  texts : ∀ characters, .text characters ∈ segments →
    characters ≠ [] ∧ ¬ openTag <:+: characters
  chain : segments.IsChain Segment.MayPrecede

theorem normal_nil : Normal [] where
  texts := by simp
  chain := .nil

theorem Normal.tail {segment : Segment} {following : List Segment}
    (hnormal : Normal (segment :: following)) : Normal following where
  texts := fun characters hmem => hnormal.texts characters (List.mem_cons_of_mem _ hmem)
  chain := hnormal.chain.tail

theorem normal_text {characters : List Char} (hne : characters ≠ [])
    (hopen : ¬ openTag <:+: characters) : Normal [.text characters] where
  texts := by simp [hne, hopen]
  chain := .singleton _

variable {name : Variable} {filter : Filter} {following : List Segment}

theorem Normal.placeholder (hnormal : Normal following) :
    Normal (.placeholder name filter :: following) where
  texts := by simpa using hnormal.texts
  chain := by
    cases following with
    | nil => exact .singleton _
    | cons next following => exact .cons_cons trivial hnormal.chain

theorem Normal.text {characters : List Char} (hne : characters ≠ [])
    (hopen : ¬ openTag <:+: characters) (hlast : characters.getLast? ≠ some '\x7b')
    (hnormal : Normal (.placeholder name filter :: following)) :
    Normal (.text characters :: .placeholder name filter :: following) where
  texts := by
    intro other hmem
    rcases List.mem_cons.mp hmem with heq | hmem
    · cases heq
      exact ⟨hne, hopen⟩
    · exact hnormal.texts other hmem
  chain := .cons_cons hlast hnormal.chain

/-- `segments` stand for `text`, piece by piece. -/
def WrittenAs (segments : List Segment) (text : List Char) : Prop :=
  ∃ parts, List.Forall₂ Segment.Written segments parts ∧ text = parts.flatten

theorem writtenAs_nil_iff {text : List Char} : WrittenAs [] text ↔ text = [] := by
  simp [WrittenAs]

theorem writtenAs_cons_iff {segment : Segment} {text : List Char} :
    WrittenAs (segment :: following) text ↔
      ∃ part rest, segment.Written part ∧ WrittenAs following rest ∧ text = part ++ rest := by
  constructor
  · rintro ⟨parts, hparts, rfl⟩
    obtain ⟨part, rest, hpart, hrest, rfl⟩ := List.forall₂_cons_left_iff.mp hparts
    exact ⟨part, rest.flatten, hpart, ⟨rest, hrest, rfl⟩, rfl⟩
  · rintro ⟨part, rest, hpart, ⟨parts, hparts, rfl⟩, rfl⟩
    exact ⟨part :: parts, .cons hpart hparts, rfl⟩

theorem writtenAs_segmentsOfText (text : List Char) : WrittenAs (segmentsOfText text) text := by
  unfold segmentsOfText
  split
  · next hempty => exact writtenAs_nil_iff.mpr (List.isEmpty_iff.mp hempty)
  · exact ⟨[text], .cons (.text text) .nil, by simp⟩

theorem WrittenAs.append {segments : List Segment} {text rest : List Char}
    (hleft : WrittenAs segments text) (hright : WrittenAs following rest) :
    WrittenAs (segments ++ following) (text ++ rest) := by
  obtain ⟨parts, hparts, rfl⟩ := hleft
  obtain ⟨more, hmore, rfl⟩ := hright
  exact ⟨parts ++ more, List.rel_append hparts hmore, by simp⟩

variable {text front back tag rest last : List Char} {segments : List Segment}

theorem normal_segmentsOfText (hopen : ¬ openTag <:+: text) : Normal (segmentsOfText text) := by
  unfold segmentsOfText
  split
  · exact normal_nil
  · next hempty => exact normal_text (mt List.isEmpty_iff.mpr hempty) hopen

theorem Normal.behind (hopen : FirstCut openTag text front back) (hnormal : Normal following) :
    Normal (segmentsOfText front ++ .placeholder name filter :: following) := by
  obtain ⟨-, hoccurs, hlast⟩ := firstCut_pair_iff.mp hopen
  unfold segmentsOfText
  split
  · exact hnormal.placeholder
  · next hempty => exact hnormal.placeholder.text (mt List.isEmpty_iff.mpr hempty) hoccurs hlast

theorem normal_writtenAs_of_parseFrom {pieces : List Piece} (hreads : Reads text pieces last)
    {byte : Nat} (hok : parseFrom byte text = .ok segments) :
    Normal segments ∧ WrittenAs segments text := by
  induction hreads generalizing byte segments with
  | rest hclosed =>
      obtain ⟨hopen, -⟩ := (parseFrom_isOk_iff (.rest hclosed) byte).mp ⟨segments, hok⟩
      rw [parseFrom_of_plain byte hopen] at hok
      obtain rfl := Except.ok.inj hok
      exact ⟨normal_segmentsOfText hopen, writtenAs_segmentsOfText _⟩
  | @tag text before after tag rest last pieces hopen hclose hrest ih =>
      have hpieces := (parseFrom_isOk_iff (.tag hopen hclose hrest) byte).mp ⟨segments, hok⟩
      obtain ⟨name, filter, hspells⟩ := (List.forall_mem_cons.mp hpieces.2).1
      obtain ⟨following, hfollowing⟩ := (parseFrom_isOk_iff hrest
        (byte + byteLength (Piece.written ⟨before, tag⟩))).mpr
          ⟨hpieces.1, (List.forall_mem_cons.mp hpieces.2).2⟩
      rw [parseFrom_of_spells byte hopen hclose hspells, hfollowing] at hok
      obtain rfl := Except.ok.inj hok
      obtain ⟨hnormal, hwritten⟩ := ih hfollowing
      refine ⟨hnormal.behind hopen, ?_⟩
      have htext : text = before ++ (openTag ++ tag ++ closeTag ++ rest) := by
        rw [hopen.eq, hclose.eq]
        simp
      rw [htext]
      refine (writtenAs_segmentsOfText before).append (writtenAs_cons_iff.mpr ?_)
      exact ⟨_, rest, .placeholder hspells, hwritten, rfl⟩

/-- A text without opening braces and the tag behind it are read as the text and the
placeholder. -/
theorem parseFrom_before_tag (byte : Nat) (front : List Char) (hoccurs : ¬ openTag <:+: front)
    (hlast : front.getLast? ≠ some '\x7b') (hspells : Spells name filter tag)
    (hrest : ∀ byte, parseFrom byte rest = .ok following) :
    parseFrom byte (front ++ (openTag ++ tag ++ closeTag ++ rest)) =
      .ok (segmentsOfText front ++ .placeholder name filter :: following) := by
  have hopen : FirstCut openTag (front ++ (openTag ++ tag ++ closeTag ++ rest)) front
      (tag ++ closeTag ++ rest) :=
    firstCut_pair_iff.mpr ⟨by simp [openTag], hoccurs, hlast⟩
  have hclose : FirstCut closeTag (tag ++ closeTag ++ rest) tag rest :=
    firstCut_of_not_mem hspells.not_mem
  rw [parseFrom_of_spells byte hopen hclose hspells, hrest]
  rfl

/-- The induction takes a text and the placeholder behind it together, since the text ends
where the tag opens. -/
theorem parseFrom_of_writtenAs : ∀ {segments : List Segment} {text : List Char},
    Normal segments → WrittenAs segments text → ∀ byte, parseFrom byte text = .ok segments
  | [], text, _, hwritten, byte => by
      obtain rfl := writtenAs_nil_iff.mp hwritten
      exact parseFrom_of_plain byte (by decide)
  | .placeholder name filter :: following, text, hnormal, hwritten, byte => by
      obtain ⟨_, rest, hpart, hfollowing, rfl⟩ := writtenAs_cons_iff.mp hwritten
      obtain ⟨tag, hspells, rfl⟩ := written_placeholder_iff.mp hpart
      have hrest := parseFrom_of_writtenAs hnormal.tail hfollowing
      exact parseFrom_before_tag byte [] (by decide) (by simp) hspells hrest
  | [.text characters], text, hnormal, hwritten, byte => by
      obtain ⟨part, rest, hpart, hnil, rfl⟩ := writtenAs_cons_iff.mp hwritten
      obtain rfl := (written_text_iff.mp hpart).symm
      obtain rfl := writtenAs_nil_iff.mp hnil
      obtain ⟨hne, hopen⟩ := hnormal.texts characters (by simp)
      rw [List.append_nil, parseFrom_of_plain byte hopen, segmentsOfText,
        if_neg (mt List.isEmpty_iff.mp hne)]
  | .text characters :: .placeholder name filter :: following, text, hnormal, hwritten, byte => by
      obtain ⟨part, _, hpart, hbehind, rfl⟩ := writtenAs_cons_iff.mp hwritten
      obtain rfl := (written_text_iff.mp hpart).symm
      obtain ⟨_, rest, hpart, hfollowing, rfl⟩ := writtenAs_cons_iff.mp hbehind
      obtain ⟨tag, hspells, rfl⟩ := written_placeholder_iff.mp hpart
      obtain ⟨hne, hoccurs⟩ := hnormal.texts characters (by simp)
      have hlast := (List.isChain_cons_cons.mp hnormal.chain).1
      have hrest := parseFrom_of_writtenAs hnormal.tail.tail hfollowing
      rw [parseFrom_before_tag byte characters hoccurs hlast hspells hrest, segmentsOfText,
        if_neg (mt List.isEmpty_iff.mp hne)]
      rfl
  | .text _ :: .text _ :: _, _, hnormal, _, _ =>
      absurd (List.isChain_cons_cons.mp hnormal.chain).1 id

theorem parseFrom_eq_ok_iff (byte : Nat) :
    parseFrom byte text = .ok segments ↔ Normal segments ∧ WrittenAs segments text := by
  constructor
  · intro hok
    obtain ⟨pieces, last, hreads⟩ := exists_reads text
    exact normal_writtenAs_of_parseFrom hreads hok
  · rintro ⟨hnormal, hwritten⟩
    exact parseFrom_of_writtenAs hnormal hwritten byte

/-! ## Printing -/

/-- The text of a segment, or its tag without blanks. -/
def Segment.print : Segment → List Char
  | .text characters => characters
  | .placeholder name .raw => openTag ++ name.spelling ++ closeTag
  | .placeholder name .json => openTag ++ (name.spelling ++ '|' :: jsonSpelling) ++ closeTag

def print (template : Template) : String :=
  String.ofList (template.segments.flatMap Segment.print)

theorem written_print (segment : Segment) : segment.Written segment.print := by
  have hpadded : ∀ core : List Char, Padded core core :=
    fun core => ⟨[], [], by simp, by simp, by simp⟩
  match segment with
  | .text characters => exact .text characters
  | .placeholder name .raw => exact .placeholder (.raw (hpadded name.spelling))
  | .placeholder name .json =>
      exact .placeholder (.json (hpadded name.spelling) (hpadded jsonSpelling))

theorem writtenAs_print (segments : List Segment) :
    WrittenAs segments (segments.flatMap Segment.print) := by
  induction segments with
  | nil => exact writtenAs_nil_iff.mpr rfl
  | cons segment following ih =>
      exact writtenAs_cons_iff.mpr ⟨_, _, written_print segment, ih, List.flatMap_cons⟩

theorem parse_eq_ok_iff {snippet : String} {template : Template} :
    parse snippet = .ok template ↔
      Normal template.segments ∧ WrittenAs template.segments snippet.toList := by
  rw [← parseFrom_eq_ok_iff 0, parse]
  cases parseFrom 0 snippet.toList with
  | error problem => simp [Except.map]
  | ok segments => cases template; simp [Except.map]

theorem parse_eq_error_iff {snippet : String} {problem : TemplateProblem} :
    parse snippet = .error problem ↔ parseFrom 0 snippet.toList = .error problem := by
  rw [parse]
  cases parseFrom 0 snippet.toList with
  | error other => simp [Except.map]
  | ok segments => simp [Except.map]

/-- The byte of an unterminated tag is that of opening braces which no closing braces
follow. -/
theorem exists_of_parse_eq_unterminated {snippet : String} {byte : Nat}
    (herror : parse snippet = .error (.unterminated byte)) :
    ∃ before after, snippet.toList = before ++ openTag ++ after ∧ ¬ closeTag <:+: after ∧
      byte = (String.ofList before).utf8ByteSize := by
  obtain ⟨pieces, last, hreads⟩ := exists_reads snippet.toList
  cases (parseFrom_eq_error_iff hreads 0).mp (parse_eq_error_iff.mp herror) with
  | tag _ _ _ _ hbad => cases hbad
  | @unclosed before after _ hopen =>
      refine ⟨pieces.flatMap Piece.written ++ before, after, ?_, hreads.unclosed hopen, ?_⟩
      · rw [hreads.eq, hopen.eq]
        simp only [List.append_assoc]
      · rw [Nat.zero_add, byteLength_eq_utf8ByteSize]

/-- The parser accepts exactly the snippets whose tags are closed and spell variables, it
returns the one list of segments that the snippet stands for, and it fails by the first
fault; what is printed is parsed again. -/
theorem parse_exact :
    (∀ snippet : String,
      (∃ pieces last, Reads snippet.toList pieces last) ∧
      (∀ pieces last, Reads snippet.toList pieces last →
        ((∃ template, parse snippet = .ok template) ↔
          ¬ openTag <:+: last ∧ ∀ piece ∈ pieces, piece.Valid) ∧
        ∀ problem, parse snippet = .error problem ↔ Fault 0 pieces last problem) ∧
      (∀ template, parse snippet = .ok template ↔
        Normal template.segments ∧ WrittenAs template.segments snippet.toList) ∧
      ∀ byte, parse snippet = .error (.unterminated byte) →
        ∃ before after, snippet.toList = before ++ openTag ++ after ∧ ¬ closeTag <:+: after ∧
          byte = (String.ofList before).utf8ByteSize) ∧
    ∀ template : Template, Normal template.segments → parse template.print = .ok template := by
  refine ⟨fun snippet => ⟨exists_reads _, fun pieces last hreads => ⟨?_, fun problem => ?_⟩,
    fun template => parse_eq_ok_iff, fun byte => exists_of_parse_eq_unterminated⟩,
    fun template hnormal => ?_⟩
  · rw [← parseFrom_isOk_iff hreads 0]
    constructor
    · rintro ⟨template, hok⟩
      exact ⟨_, (parseFrom_eq_ok_iff 0).mpr (parse_eq_ok_iff.mp hok)⟩
    · rintro ⟨segments, hok⟩
      exact ⟨⟨segments⟩, parse_eq_ok_iff.mpr ((parseFrom_eq_ok_iff 0).mp hok)⟩
  · rw [parse_eq_error_iff, parseFrom_eq_error_iff hreads]
  · refine parse_eq_ok_iff.mpr ⟨hnormal, ?_⟩
    rw [print, String.toList_ofList]
    exact writtenAs_print template.segments

/-- A run of three braces opens a tag at the first two, and the third is part of the tag;
the last braces open a tag at byte 11, for the letter in front has two bytes. -/
theorem parse_of_brace_runs :
    parse (print ⟨[.text "λ\x7d\x7d".toList, .placeholder .props .json, .text ['\x7b']]⟩) =
        .ok ⟨[.text "λ\x7d\x7d".toList, .placeholder .props .json, .text ['\x7b']]⟩ ∧
      parse "\x7b\x7b\x7bprops\x7d\x7d" = .error (.unknownVariable "\x7bprops") ∧
      parse "λ\x7b\x7bprops\x7d\x7d\x7b\x7b\x7b" = .error (.unterminated 11) := by
  refine ⟨parse_exact.2 _ ?_, ?_, ?_⟩
  · have hbrace : Normal [.text ['\x7b']] := normal_text (by decide) (by decide)
    exact hbrace.placeholder.text (by decide) (by decide) (by decide)
  · have hopen : FirstCut openTag "\x7b\x7b\x7bprops\x7d\x7d".toList []
        "\x7bprops\x7d\x7d".toList :=
      splitFirst?_eq_some_iff.mp (by decide)
    have hclose : FirstCut closeTag "\x7bprops\x7d\x7d".toList "\x7bprops".toList [] :=
      splitFirst?_eq_some_iff.mp (by decide)
    have hreads := Reads.tag hopen hclose (.rest fun hother => absurd hother.eq (by simp [openTag]))
    refine (((parse_exact.1 _).2.1 _ _ hreads).2 _).mpr ?_
    refine .tag [] [] rfl (by simp) (.badVariable (.bare (by decide)) fun name => ?_)
    rw [padded_spelling_iff]
    cases name <;> decide
  · have hopen : FirstCut openTag "λ\x7b\x7bprops\x7d\x7d\x7b\x7b\x7b".toList "λ".toList
        "props\x7d\x7d\x7b\x7b\x7b".toList :=
      splitFirst?_eq_some_iff.mp (by decide)
    have hclose : FirstCut closeTag "props\x7d\x7d\x7b\x7b\x7b".toList "props".toList
        "\x7b\x7b\x7b".toList :=
      splitFirst?_eq_some_iff.mp (by decide)
    have hunclosed : FirstCut openTag "\x7b\x7b\x7b".toList [] ['\x7b'] :=
      splitFirst?_eq_some_iff.mp (by decide)
    have hreads := Reads.tag hopen hclose
      (.rest fun hother => (hother.unique hunclosed).2 ▸ by decide)
    have hvalid : Piece.Valid ⟨"λ".toList, "props".toList⟩ :=
      ⟨.props, .raw, .raw (padded_spelling_iff.mpr (by decide))⟩
    exact (((parse_exact.1 _).2.1 _ _ hreads).2 _).mpr
      (.unclosed (by simpa using hvalid) hunclosed)

end ServerRender.Template
