import Mathlib.Data.List.Chain
import Mathlib.Data.List.Forall2
import ServerRender.Proofs.Text.Cuts
import ServerRender.Proofs.Text.Trimming
import ServerRender.Template

/-!
# The grammar of templates

A snippet is read from left to right: a tag opens at the first pair of opening braces and
closes at the first pair of closing braces behind it.  The parser accepts a snippet
exactly if every tag is closed and spells a variable, with or without the filter, and then
its segments are the snippet again once each placeholder is replaced by its tag.  In the
other direction every list of segments that could have come from a parser comes back from
its written form, however its tags are spelled.  A snippet that is not accepted fails by
its first bad tag.
-/

namespace ServerRender.Template

open Text

def Variable.spelling : Variable → List Char
  | component => "component".toList
  | urlPath => "url_path".toList
  | props => "props".toList

def jsonSpelling : List Char :=
  "json".toList

/-- The content of a tag, which may have blanks around its parts. -/
inductive Spells : Variable → Filter → List Char → Prop
  | raw {name : Variable} {tag : List Char} (hname : Padded name.spelling tag) :
      Spells name .raw tag
  | json {name : Variable} {head rest : List Char} (hname : Padded name.spelling head)
      (hfilter : Padded jsonSpelling rest) : Spells name .json (head ++ '|' :: rest)

/-- What stands before the first bar of a tag, and what stands behind it. -/
inductive Parts : List Char → List Char → Option (List Char) → Prop
  | bare {tag : List Char} (hbar : '|' ∉ tag) : Parts tag tag none
  | barred {head rest : List Char} (hbar : '|' ∉ head) :
      Parts (head ++ '|' :: rest) head (some rest)

/-- What is wrong with a tag: the variable, or else the filter. -/
inductive Offends : List Char → TemplateProblem → Prop
  | badVariable {tag head : List Char} {filter : Option (List Char)}
      (hparts : Parts tag head filter) (hname : ∀ name : Variable, ¬ Padded name.spelling head) :
      Offends tag (.unknownVariable (String.ofList (trim head)))
  | badFilter {tag head rest : List Char} {name : Variable} (hparts : Parts tag head (some rest))
      (hname : Padded name.spelling head) (hfilter : ¬ Padded jsonSpelling rest) :
      Offends tag (.unknownFilter (String.ofList (trim rest)))

theorem trim_spelling (name : Variable) : trim name.spelling = name.spelling := by
  cases name <;> decide

theorem trim_jsonSpelling : trim jsonSpelling = jsonSpelling := by
  decide

theorem padded_spelling_iff {name : Variable} {text : List Char} :
    Padded name.spelling text ↔ trim text = name.spelling :=
  padded_iff_trim_eq (trim_spelling name)

theorem padded_jsonSpelling_iff {text : List Char} :
    Padded jsonSpelling text ↔ trim text = jsonSpelling :=
  padded_iff_trim_eq trim_jsonSpelling

/-- A character that is no blank and not in the core of a padded text is not in the text. -/
theorem not_mem_of_padded {core text : List Char} {c : Char} (hpadded : Padded core text)
    (hblank : isBlank c = false) (hcore : c ∉ core) : c ∉ text := by
  obtain ⟨left, right, hleft, hright, rfl⟩ := hpadded
  simp only [List.mem_append, not_or]
  refine ⟨⟨fun hmem => ?_, hcore⟩, fun hmem => ?_⟩
  · rw [hleft c hmem] at hblank
    contradiction
  · rw [hright c hmem] at hblank
    contradiction

theorem not_mem_of_padded_spelling {name : Variable} {text : List Char} {c : Char}
    (hpadded : Padded name.spelling text) (hc : c = '|' ∨ c = '\x7d') : c ∉ text := by
  apply not_mem_of_padded hpadded
  · rcases hc with rfl | rfl <;> decide
  · rcases hc with rfl | rfl <;> cases name <;> decide

theorem Spells.not_mem {name : Variable} {filter : Filter} {tag : List Char}
    (hspells : Spells name filter tag) : '\x7d' ∉ tag := by
  cases hspells with
  | raw hname => exact not_mem_of_padded_spelling hname (.inr rfl)
  | json hname hfilter =>
      simp only [List.mem_append, List.mem_cons, not_or]
      refine ⟨not_mem_of_padded_spelling hname (.inr rfl), by decide, ?_⟩
      exact not_mem_of_padded hfilter (by decide) (by decide)

theorem parseVariable_spelling (name : Variable) : parseVariable name.spelling = .ok name := by
  cases name <;> decide

theorem parseVariable_of_ne {text : List Char} (hname : ∀ name : Variable, text ≠ name.spelling) :
    parseVariable text = .error (.unknownVariable (String.ofList text)) := by
  have hne : ∀ name : Variable, String.ofList text ≠ String.ofList name.spelling :=
    fun name heq => hname name (String.ofList_injective heq)
  unfold parseVariable
  split
  · next heq => exact absurd heq (hne .component)
  · next heq => exact absurd heq (hne .urlPath)
  · next heq => exact absurd heq (hne .props)
  · rfl

theorem parseFilter_of_ne {text : List Char} (hfilter : text ≠ jsonSpelling) :
    parseFilter text = .error (.unknownFilter (String.ofList text)) := by
  have hne : String.ofList text ≠ String.ofList jsonSpelling :=
    fun heq => hfilter (String.ofList_injective heq)
  unfold parseFilter
  split
  · next heq => exact absurd heq hne
  · rfl

theorem exists_parts (tag : List Char) : ∃ head filter, Parts tag head filter := by
  by_cases hbar : '|' ∈ tag
  · obtain ⟨head, rest, hcut⟩ := exists_firstCut (singleton_infix_iff.mpr hbar)
    obtain ⟨rfl, hhead⟩ := firstCut_singleton_iff.mp hcut
    exact ⟨head, some rest, .barred hhead⟩
  · exact ⟨tag, none, .bare hbar⟩

/-- A tag is parsed part by part, the variable first. -/
theorem parseTag_of_parts {tag head : List Char} {filter : Option (List Char)}
    (hparts : Parts tag head filter) :
    parseTag tag = (do
      let name ← parseVariable (trim head)
      match filter with
      | some rest => return .placeholder name (← parseFilter (trim rest))
      | none => return .placeholder name .raw) := by
  unfold parseTag
  cases hparts with
  | bare hbar => rw [splitFirst?_singleton_of_not_mem hbar]
  | barred hbar => rw [splitFirst?_singleton hbar]

theorem parseTag_of_spells {name : Variable} {filter : Filter} {tag : List Char}
    (hspells : Spells name filter tag) : parseTag tag = .ok (.placeholder name filter) := by
  cases hspells with
  | raw hname =>
      rw [parseTag_of_parts (.bare (not_mem_of_padded_spelling hname (.inl rfl))),
        padded_spelling_iff.mp hname, parseVariable_spelling]
      rfl
  | json hname hfilter =>
      rw [parseTag_of_parts (.barred (not_mem_of_padded_spelling hname (.inl rfl))),
        padded_spelling_iff.mp hname, parseVariable_spelling]
      simp only [padded_jsonSpelling_iff.mp hfilter]
      rfl

theorem parseTag_of_offends {tag : List Char} {problem : TemplateProblem}
    (hoffends : Offends tag problem) : parseTag tag = .error problem := by
  cases hoffends with
  | badVariable hparts hname =>
      rw [parseTag_of_parts hparts,
        parseVariable_of_ne fun name => mt padded_spelling_iff.mpr (hname name)]
      rfl
  | badFilter hparts hname hfilter =>
      rw [parseTag_of_parts hparts, padded_spelling_iff.mp hname, parseVariable_spelling]
      simp only [parseFilter_of_ne (mt padded_jsonSpelling_iff.mpr hfilter)]
      rfl

theorem spells_or_offends (tag : List Char) :
    (∃ name filter, Spells name filter tag) ∨ ∃ problem, Offends tag problem := by
  obtain ⟨head, filter, hparts⟩ := exists_parts tag
  by_cases hname : ∃ name : Variable, Padded name.spelling head
  · obtain ⟨name, hname⟩ := hname
    cases hparts with
    | bare hbar => exact .inl ⟨name, .raw, .raw hname⟩
    | @barred head rest hbar =>
        by_cases hfilter : Padded jsonSpelling rest
        · exact .inl ⟨name, .json, .json hname hfilter⟩
        · exact .inr ⟨_, .badFilter (.barred hbar) hname hfilter⟩
  · exact .inr ⟨_, .badVariable hparts (not_exists.mp hname)⟩

/-! ## Reading a snippet -/

structure Piece where
  before : List Char
  tag : List Char

def Piece.written (piece : Piece) : List Char :=
  piece.before ++ openTag ++ piece.tag ++ closeTag

def Piece.Valid (piece : Piece) : Prop :=
  ∃ name filter, Spells name filter piece.tag

/-- A text is read from left to right: each tag opens at the first opening braces of what
remains and closes at the first closing braces behind them.  What is read last has no
tag that is closed. -/
inductive Reads : List Char → List Piece → List Char → Prop
  | rest {text : List Char}
      (hlast : ∀ {before after : List Char}, FirstCut openTag text before after →
        ¬ closeTag <:+: after) : Reads text [] text
  | tag {text before after tag rest last : List Char} {pieces : List Piece}
      (hopen : FirstCut openTag text before after) (hclose : FirstCut closeTag after tag rest)
      (hrest : Reads rest pieces last) : Reads text (⟨before, tag⟩ :: pieces) last

/-- What is wrong with a snippet: its first bad tag, or a last one that is not closed, by
the byte at which it opens. -/
inductive Fault (byte : Nat) (pieces : List Piece) (last : List Char) : TemplateProblem → Prop
  | tag (good more : List Piece) {bad : Piece} {problem : TemplateProblem}
      (hpieces : pieces = good ++ bad :: more) (hgood : ∀ piece ∈ good, piece.Valid)
      (hbad : Offends bad.tag problem) : Fault byte pieces last problem
  | unclosed {before after : List Char} (hgood : ∀ piece ∈ pieces, piece.Valid)
      (hopen : FirstCut openTag last before after) :
      Fault byte pieces last
        (.unterminated (byte + byteLength (pieces.flatMap Piece.written ++ before)))

theorem byteLength_append (text more : List Char) :
    byteLength (text ++ more) = byteLength text + byteLength more := by
  induction text with
  | nil => simp [byteLength]
  | cons c rest ih =>
      simp only [byteLength, List.cons_append, List.foldr_cons] at ih ⊢
      omega

theorem byteLength_eq_utf8ByteSize (text : List Char) :
    byteLength text = (String.ofList text).utf8ByteSize := by
  induction text with
  | nil => rfl
  | cons c rest ih =>
      rw [String.ofList_cons, String.utf8ByteSize_append, String.utf8ByteSize_singleton, ← ih]
      rfl

theorem byteLength_written (piece : Piece) :
    byteLength piece.written = byteLength piece.before + byteLength piece.tag + 4 := by
  have hopen : byteLength openTag = 2 := by decide
  have hclose : byteLength closeTag = 2 := by decide
  rw [Piece.written, byteLength_append, byteLength_append, byteLength_append, hopen, hclose]
  omega

theorem Fault.later {byte : Nat} {piece : Piece} {pieces : List Piece} {last : List Char}
    {problem : TemplateProblem} (hvalid : piece.Valid)
    (hfault : Fault (byte + byteLength piece.written) pieces last problem) :
    Fault byte (piece :: pieces) last problem := by
  cases hfault with
  | tag good more hpieces hgood hbad =>
      exact .tag (piece :: good) more (congrArg (List.cons piece) hpieces)
        (List.forall_mem_cons.mpr ⟨hvalid, hgood⟩) hbad
  | unclosed hgood hopen =>
      rw [Nat.add_assoc, ← byteLength_append, ← List.append_assoc, ← List.flatMap_cons]
      exact .unclosed (List.forall_mem_cons.mpr ⟨hvalid, hgood⟩) hopen

theorem Fault.cases_cons {byte : Nat} {piece : Piece} {pieces : List Piece} {last : List Char}
    {problem : TemplateProblem} (hfault : Fault byte (piece :: pieces) last problem) :
    Offends piece.tag problem ∨
      piece.Valid ∧ Fault (byte + byteLength piece.written) pieces last problem := by
  cases hfault with
  | tag good more hpieces hgood hbad =>
      cases good with
      | nil =>
          obtain ⟨rfl, -⟩ := List.cons.inj hpieces
          exact .inl hbad
      | cons first good =>
          obtain ⟨rfl, rfl⟩ := List.cons.inj hpieces
          obtain ⟨hvalid, hgood⟩ := List.forall_mem_cons.mp hgood
          exact .inr ⟨hvalid, .tag good more rfl hgood hbad⟩
  | unclosed hgood hopen =>
      obtain ⟨hvalid, hgood⟩ := List.forall_mem_cons.mp hgood
      refine .inr ⟨hvalid, ?_⟩
      rw [List.flatMap_cons, List.append_assoc, byteLength_append, ← Nat.add_assoc]
      exact .unclosed hgood hopen

/-- A snippet that is not in order has a first fault. -/
theorem exists_fault (byte : Nat) (pieces : List Piece) (last : List Char) :
    (¬ openTag <:+: last ∧ ∀ piece ∈ pieces, piece.Valid) ∨
      ∃ problem, Fault byte pieces last problem := by
  induction pieces generalizing byte with
  | nil =>
      by_cases hlast : openTag <:+: last
      · obtain ⟨before, after, hopen⟩ := exists_firstCut hlast
        exact .inr ⟨_, .unclosed (by simp) hopen⟩
      · exact .inl ⟨hlast, by simp⟩
  | cons piece pieces ih =>
      rcases spells_or_offends piece.tag with hvalid | ⟨problem, hoffends⟩
      · rcases ih (byte + byteLength piece.written) with ⟨hlast, hmore⟩ | ⟨problem, hfault⟩
        · exact .inl ⟨hlast, List.forall_mem_cons.mpr ⟨hvalid, hmore⟩⟩
        · exact .inr ⟨problem, hfault.later hvalid⟩
      · exact .inr ⟨problem, .tag [] pieces rfl (by simp) hoffends⟩

/-- Nothing is lost or repeated. -/
theorem Reads.eq {text last : List Char} {pieces : List Piece} (hreads : Reads text pieces last) :
    text = pieces.flatMap Piece.written ++ last := by
  induction hreads with
  | rest hlast => rfl
  | tag hopen hclose hrest ih =>
      rw [hopen.eq, hclose.eq, ih]
      simp [Piece.written]

theorem Reads.unclosed {text last before after : List Char} {pieces : List Piece}
    (hreads : Reads text pieces last) (hopen : FirstCut openTag last before after) :
    ¬ closeTag <:+: after := by
  induction hreads with
  | rest hlast => exact hlast hopen
  | tag _ _ _ ih => exact ih hopen

theorem exists_reads (text : List Char) : ∃ pieces last, Reads text pieces last := by
  by_cases hclosed : ∃ before after, FirstCut openTag text before after ∧ closeTag <:+: after
  · obtain ⟨before, after, hopen, hoccurs⟩ := hclosed
    obtain ⟨tag, rest, hclose⟩ := exists_firstCut hoccurs
    have hshorter : rest.length < text.length := by
      rw [hopen.eq, hclose.eq]
      simp only [List.length_append, openTag, closeTag, List.length_cons, List.length_nil]
      omega
    obtain ⟨pieces, last, hreads⟩ := exists_reads rest
    exact ⟨⟨before, tag⟩ :: pieces, last, .tag hopen hclose hreads⟩
  · refine ⟨[], text, .rest fun hopen hoccurs => ?_⟩
    exact hclosed ⟨_, _, hopen, hoccurs⟩
termination_by text.length

section Parsing

variable {text before after tag rest last : List Char} {pieces : List Piece}
variable {problem : TemplateProblem}

def segmentsOfText (text : List Char) : List Segment :=
  if text.isEmpty then [] else [.text text]

theorem parseFrom_of_plain (byte : Nat) (hopen : ¬ openTag <:+: text) :
    parseFrom byte text = .ok (segmentsOfText text) := by
  rw [parseFrom]
  split
  · rfl
  · next hsome =>
      rw [splitFirst?_eq_none_iff.mpr hopen] at hsome
      contradiction

theorem parseFrom_of_open (byte : Nat) (hopen : FirstCut openTag text before after) :
    parseFrom byte text =
      match splitFirst? closeTag after with
      | none => .error (.unterminated (byte + byteLength before))
      | some (tag, rest) => do
        let segment ← parseTag tag
        let following ← parseFrom (byte + byteLength before + byteLength tag + 4) rest
        return segmentsOfText before ++ segment :: following := by
  conv => lhs; rw [parseFrom]
  split
  · next hnone =>
      rw [splitFirst?_eq_some_iff.mpr hopen] at hnone
      contradiction
  · next hsome =>
      rw [splitFirst?_eq_some_iff.mpr hopen] at hsome
      obtain ⟨rfl, rfl⟩ := Prod.ext_iff.mp (Option.some.inj hsome)
      split
      · next hclose => simp only [hclose]
      · next hclose =>
          simp only [hclose]
          rfl

theorem parseFrom_of_unclosed (byte : Nat) (hopen : FirstCut openTag text before after)
    (hclose : ¬ closeTag <:+: after) :
    parseFrom byte text = .error (.unterminated (byte + byteLength before)) := by
  rw [parseFrom_of_open byte hopen, splitFirst?_eq_none_iff.mpr hclose]

theorem parseFrom_of_closed (byte : Nat) (hopen : FirstCut openTag text before after)
    (hclose : FirstCut closeTag after tag rest) :
    parseFrom byte text = (do
      let segment ← parseTag tag
      let following ← parseFrom (byte + byteLength before + byteLength tag + 4) rest
      return segmentsOfText before ++ segment :: following) := by
  rw [parseFrom_of_open byte hopen, splitFirst?_eq_some_iff.mpr hclose]

theorem parseFrom_of_spells (byte : Nat) (hopen : FirstCut openTag text before after)
    (hclose : FirstCut closeTag after tag rest) {name : Variable} {filter : Filter}
    (hspells : Spells name filter tag) :
    parseFrom byte text =
      (parseFrom (byte + byteLength (Piece.written ⟨before, tag⟩)) rest).map fun following =>
        segmentsOfText before ++ .placeholder name filter :: following := by
  rw [parseFrom_of_closed byte hopen hclose, parseTag_of_spells hspells, byteLength_written]
  simp only [← Nat.add_assoc]
  rfl

theorem parseFrom_of_offends (byte : Nat) (hopen : FirstCut openTag text before after)
    (hclose : FirstCut closeTag after tag rest) (hoffends : Offends tag problem) :
    parseFrom byte text = .error problem := by
  rw [parseFrom_of_closed byte hopen hclose, parseTag_of_offends hoffends]
  rfl

theorem exists_parseFrom (hreads : Reads text pieces last) (hlast : ¬ openTag <:+: last)
    (hvalid : ∀ piece ∈ pieces, piece.Valid) (byte : Nat) :
    ∃ segments, parseFrom byte text = .ok segments := by
  induction hreads generalizing byte with
  | rest _ => exact ⟨_, parseFrom_of_plain byte hlast⟩
  | tag hopen hclose hrest ih =>
      obtain ⟨⟨name, filter, hspells⟩, hmore⟩ := List.forall_mem_cons.mp hvalid
      obtain ⟨following, hfollowing⟩ := ih hlast hmore _
      rw [parseFrom_of_spells byte hopen hclose hspells, hfollowing]
      exact ⟨_, rfl⟩

theorem parseFrom_of_fault (hreads : Reads text pieces last) {byte : Nat}
    (hfault : Fault byte pieces last problem) : parseFrom byte text = .error problem := by
  induction hreads generalizing byte with
  | rest hlast =>
      cases hfault with
      | tag _ _ hpieces _ _ => simp at hpieces
      | unclosed _ hopen => exact parseFrom_of_unclosed byte hopen (hlast hopen)
  | tag hopen hclose hrest ih =>
      rcases hfault.cases_cons with hoffends | ⟨⟨name, filter, hspells⟩, hlater⟩
      · exact parseFrom_of_offends byte hopen hclose hoffends
      · rw [parseFrom_of_spells byte hopen hclose hspells, ih hlater]
        rfl

theorem parseFrom_isOk_iff (hreads : Reads text pieces last) (byte : Nat) :
    (∃ segments, parseFrom byte text = .ok segments) ↔
      ¬ openTag <:+: last ∧ ∀ piece ∈ pieces, piece.Valid := by
  constructor
  · rintro ⟨segments, hok⟩
    rcases exists_fault byte pieces last with hvalid | ⟨problem, hfault⟩
    · exact hvalid
    · rw [parseFrom_of_fault hreads hfault] at hok
      contradiction
  · rintro ⟨hlast, hvalid⟩
    exact exists_parseFrom hreads hlast hvalid byte

theorem parseFrom_eq_error_iff (hreads : Reads text pieces last) (byte : Nat) :
    parseFrom byte text = .error problem ↔ Fault byte pieces last problem := by
  refine ⟨fun herror => ?_, parseFrom_of_fault hreads⟩
  rcases exists_fault byte pieces last with ⟨hlast, hvalid⟩ | ⟨first, hfault⟩
  · obtain ⟨segments, hok⟩ := exists_parseFrom hreads hlast hvalid byte
    rw [hok] at herror
    contradiction
  · rw [parseFrom_of_fault hreads hfault] at herror
    exact Except.error.inj herror ▸ hfault

end Parsing

end ServerRender.Template
