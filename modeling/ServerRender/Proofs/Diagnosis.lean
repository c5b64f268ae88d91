import ServerRender.Diagnosis
import ServerRender.Proofs.SourceWindow

/-!
# What is logged about the frames of a failure

The lines of frames are those of the bundle and the wrapper script with a line feed
between them.  So every piece of the bundle between line feeds is a line, and whatever is
behind them is a line of the wrapper.  Each frame has an event of its own, with the window
of its line or the note that there is none, and what the others say does not matter to it.
-/

namespace ServerRender.FailedRender

variable {bundle wrapper : String} {line : UInt32}

theorem length_frameEvents (source : String) (index : Nat) (frames : List StackFrame) :
    (frameEvents source index frames).length = frames.length := by
  induction frames generalizing index with
  | nil => rfl
  | cons frame rest ih => rw [frameEvents, List.length_cons, ih, List.length_cons]

/-- The event of a frame depends on this frame alone. -/
theorem getElem?_frameEvents (source : String) (index : Nat) (frames : List StackFrame)
    (place : Nat) :
    (frameEvents source index frames)[place]? = frames[place]?.map fun frame =>
      .frame (index + place) frame.text (SourceWindow.render? source frame.line) := by
  induction frames generalizing index place with
  | nil => rfl
  | cons frame rest ih =>
      cases place with
      | zero => rfl
      | succ place =>
          rw [frameEvents, List.getElem?_cons_succ, ih, List.getElem?_cons_succ,
            Nat.add_right_comm, Nat.add_assoc]

def bundleLines (bundle : String) : List (List Char) :=
  (bundle.toList.splitOn '\n').map Text.dropReturn

theorem lines_source (failed : FailedRender) :
    Text.lines failed.source.toList =
      bundleLines failed.bundle ++ Text.splitLines failed.wrapper.toList := by
  have hsource : failed.source.toList =
      failed.bundle.toList ++ '\n' :: failed.wrapper.toList := by simp [source]
  rw [hsource, Text.lines_append_feed_append, Text.lines_eq_splitLines, bundleLines]

/-- What the event for a line says: a window that marks a line of the bundle or of the
wrapper, or that there is no such line. -/
inductive Locates (bundle wrapper : String) (line : Nat) : String → Prop
  | bundle {text : List Char} {window : String}
      (hline : 1 ≤ line) (htext : (bundle.toList.splitOn '\n')[line - 1]? = some text)
      (hmarks : SourceWindow.Marks window line (Text.dropReturn text)) :
      Locates bundle wrapper line ("\n" ++ window)
  | wrapper {number : Nat} {text : List Char} {window : String}
      (hline : line = (bundle.toList.splitOn '\n').length + number) (hnumber : 1 ≤ number)
      (htext : (Text.splitLines wrapper.toList)[number - 1]? = some text)
      (hmarks : SourceWindow.Marks window line text) :
      Locates bundle wrapper line ("\n" ++ window)
  | nowhere
      (hline : line = 0 ∨ (bundle.toList.splitOn '\n').length +
        (Text.splitLines wrapper.toList).length < line) :
      Locates bundle wrapper line "<no source at this line>"

theorem locates_of_le {window : String} (failed : FailedRender)
    (hwindow : SourceWindow.render? failed.source line = some window) :
    Locates failed.bundle failed.wrapper line.toNat ("\n" ++ window) := by
  have hlength : (bundleLines failed.bundle).length = (failed.bundle.toList.splitOn '\n').length :=
    List.length_map _
  rw [SourceWindow.render?_eq, lines_source, Option.ite_none_right_eq_some] at hwindow
  obtain ⟨⟨hpos, hle⟩, hwindow⟩ := hwindow
  obtain rfl := Option.some.inj hwindow
  set lines := bundleLines failed.bundle ++ Text.splitLines failed.wrapper.toList with hlines
  have hdepicts := SourceWindow.depicts_compose lines line.toNat
  obtain ⟨text, htext⟩ : ∃ text, lines[line.toNat - 1]? = some text :=
    ⟨_, List.getElem?_eq_getElem (by omega)⟩
  have hmarks := hdepicts.marks hpos htext
  by_cases hbundle : line.toNat ≤ (bundleLines failed.bundle).length
  · rw [hlines, List.getElem?_append_left (by omega), bundleLines, List.getElem?_map] at htext
    obtain ⟨piece, hpiece, rfl⟩ := Option.map_eq_some_iff.mp htext
    exact .bundle hpos hpiece hmarks
  · rw [hlines, List.getElem?_append_right (by omega), hlength] at htext
    have hnumber : line.toNat = (failed.bundle.toList.splitOn '\n').length +
        (line.toNat - (failed.bundle.toList.splitOn '\n').length) := by omega
    refine .wrapper hnumber (by omega) ?_ hmarks
    rw [← htext]
    congr 1
    omega

/-- The event of a frame says where its line is. -/
theorem locates_frame (failed : FailedRender) (index : Nat) (frame : StackFrame) :
    Locates failed.bundle failed.wrapper frame.line.toNat
      (Log.Event.frame index frame.text
        (SourceWindow.render? failed.source frame.line)).text := by
  cases hwindow : SourceWindow.render? failed.source frame.line with
  | some window => exact locates_of_le failed hwindow
  | none =>
      rw [SourceWindow.render?_eq, lines_source, ite_eq_right_iff] at hwindow
      refine .nowhere ?_
      by_contra hinside
      refine Option.some_ne_none _ (hwindow ?_)
      rw [List.length_append, bundleLines, List.length_map]
      omega

/-- A failure is handed on with its cause as it is and a preview of the props.  In
development mode a cause with frames is reported, then the number of its frames, and then
each frame in its place, by an event that says where its line is, whatever the lines of the
others are. -/
theorem every_frame_has_its_event (failed : FailedRender) (cause : EngineError) :
    failed.failure cause = ⟨failed.component, propsPreview failed.props, cause⟩ ∧
    Previews failed.props (propsPreview failed.props) ∧
    (cause.frames ≠ [] → ∃ dump : List Log.Event,
      failed.events .development cause =
        .renderFailed failed.component failed.urlPath cause.isProgram cause.message ::
          .stackTrace failed.component cause.frames.length :: dump ∧
      dump.length = cause.frames.length ∧
      ∀ (index : Nat) (frame : StackFrame), cause.frames[index]? = some frame →
        ∃ event : Log.Event, dump[index]? = some event ∧ event.level = .warn ∧
        event.fields = [("frame", .ofNat index), ("location", .string frame.text)] ∧
        Locates failed.bundle failed.wrapper frame.line.toNat event.text) := by
  refine ⟨rfl, previews_propsPreview failed.props, fun hframes =>
    ⟨frameEvents failed.source 0 cause.frames, ?_, ?_, ?_⟩⟩
  · rw [events, if_pos]
    simpa [RenderMode.isDevelopment] using hframes
  · exact length_frameEvents failed.source 0 cause.frames
  · intro index frame hframe
    refine ⟨_, ?_, rfl, rfl, locates_frame failed index frame⟩
    rw [getElem?_frameEvents, hframe, Option.map_some, Nat.zero_add]

/-- A bundle whose last line ends in a carriage return, and a wrapper with one line. -/
def seam : FailedRender :=
  ⟨"A", "/", "", "first\r\nlast\r", "boom()\n"⟩

/-- Frames in the wrapper, in the last line of the bundle, behind both and in front. -/
def scattered : EngineError :=
  .runtime "boom" [⟨"render", 3, none⟩, ⟨"last", 2, some 1⟩, ⟨"behind", 4, none⟩, ⟨"zero", 0, none⟩]

theorem every_frame_of_scattered :
    scattered.frames ≠ [] ∧ ∃ dump,
      seam.events .development scattered =
        .renderFailed "A" "/" false "boom" :: .stackTrace "A" 4 :: dump ∧
      dump.map Log.Event.text =
        ["\n<lines 1 through 3>:\n   1 | first\n   2 | last\n>> 3 | boom()\n",
          "\n<lines 1 through 3>:\n   1 | first\n>> 2 | last\n   3 | boom()\n",
          "<no source at this line>", "<no source at this line>"] := by
  have hframes : scattered.frames ≠ [] := by decide
  obtain ⟨dump, hevents, -, -⟩ := (every_frame_has_its_event seam scattered).2.2 hframes
  refine ⟨hframes, dump, hevents, ?_⟩
  have hdump : dump = (seam.events .development scattered).drop 2 := by rw [hevents]; rfl
  rw [hdump]
  decide +kernel

end ServerRender.FailedRender
