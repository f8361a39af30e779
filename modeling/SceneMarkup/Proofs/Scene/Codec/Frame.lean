import SceneMarkup.Proofs.Scene.Codec.Reading
import SceneMarkup.Scene.Codec.Frame

/-!
# Frames and places are read back

* `Bounds.numbers`, `Frame.numbers`: the numbers of a box and of a frame;
* `reads_constraints`, `reads_crossAlign`, `reads_bounds`: the records of a place;
* `readFrame_of_holds`: a frame is read from the fields that it was written to.
-/

namespace SceneMarkup.Scene

def Bounds.numbers (bounds : Bounds) : List Single :=
  [bounds.x, bounds.y, bounds.width, bounds.height]

def Frame.numbers (frame : Frame) : List Single :=
  [frame.itemSpacing, frame.paddingTop, frame.paddingRight, frame.paddingBottom,
    frame.paddingLeft] ++
    frame.lineSpacing.toList ++ frame.gridRowGap.toList ++ frame.gridColumnGap.toList

namespace Codec

/-! ### Enumerations -/

theorem complete_constraintNames : constraintNames.Complete := by
  rintro ⟨⟩ <;> rfl

theorem complete_positionings : positionings.Complete := by
  rintro ⟨⟩ <;> rfl

theorem complete_sizings : sizings.Complete := by
  rintro ⟨⟩ <;> rfl

theorem complete_layoutModes : layoutModes.Complete := by
  rintro ⟨⟩ <;> rfl

theorem complete_mainAligns : mainAligns.Complete := by
  rintro ⟨⟩ <;> rfl

theorem complete_counterAligns : counterAligns.Complete := by
  rintro ⟨⟩ <;> rfl

theorem complete_axisSizings : axisSizings.Complete := by
  rintro ⟨⟩ <;> rfl

theorem complete_wraps : wraps.Complete := by
  rintro ⟨⟩ <;> rfl

theorem complete_lineAligns : lineAligns.Complete := by
  rintro ⟨⟩ <;> rfl

/-- Of the names that leave the alignment to the parent, one is written. -/
theorem reads_crossAlign (align : CrossAlign) :
    Reads readCrossAlign (writeCrossAlign align) align := by
  intro other extended
  cases align <;> (cases extended; rfl)

/-! ### Places -/

theorem reads_constraints (constraints : Constraints) :
    Reads readConstraints (writeConstraints constraints) constraints := by
  refine reads_record (by simp only [List.map]; decide) fun fields holds => ?_
  simp only [holdsAll_cons] at holds
  obtain ⟨horizontal, vertical, -⟩ := holds
  simp only [defaulted_of_holds horizontal (reads_keywords complete_constraintNames .null _),
    defaulted_of_holds vertical (reads_keywords complete_constraintNames .null _),
    Option.bind_eq_bind, Option.bind_some, Option.pure_def]

theorem reads_bounds {bounds : Bounds} (finite : AllFinite bounds.numbers) :
    Reads readBounds (writeBounds exactNumber bounds) bounds := by
  simp only [AllFinite, Bounds.numbers, List.forall_mem_cons] at finite
  obtain ⟨x, y, width, height, -⟩ := finite
  refine reads_record (by simp only [List.map]; decide) fun fields holds => ?_
  simp only [holdsAll_cons] at holds
  obtain ⟨holdsX, holdsY, holdsWidth, holdsHeight, -⟩ := holds
  simp only [required_of_holds holdsX (reads_single x), required_of_holds holdsY (reads_single y),
    required_of_holds holdsWidth (reads_single width),
    required_of_holds holdsHeight (reads_single height), Option.bind_eq_bind, Option.bind_some,
    Option.pure_def]

/-! ### Frames -/

/-- A frame is read from the fields that it was written to. -/
theorem readFrame_of_holds {fields : Fields} {frame : Frame} (under : Vacant)
    (finite : AllFinite frame.numbers) (holds : HoldsAll fields (frameFields exactNumber frame)) :
    readFrame under fields = some frame := by
  simp only [AllFinite, Frame.numbers, List.forall_mem_append, List.forall_mem_cons] at finite
  obtain ⟨⟨⟨⟨spacing, top, right, bottom, left, -⟩, lineSpacing⟩, rowGap⟩, columnGap⟩ := finite
  simp only [frameFields, holdsAll_cons] at holds
  obtain ⟨mode, holdsSpacing, holdsTop, holdsRight, holdsBottom, holdsLeft, mainAlign, counterAlign,
    mainSizing, counterSizing, wrap, holdsLineSpacing, lineAlign, rows, columns, holdsRowGap,
    holdsColumnGap, clips, reversed, -⟩ := holds
  simp only [readFrame, defaulted_of_holds mode (reads_keywords complete_layoutModes under _),
    defaulted_of_holds holdsSpacing (reads_single spacing),
    defaulted_of_holds holdsTop (reads_single top),
    defaulted_of_holds holdsRight (reads_single right),
    defaulted_of_holds holdsBottom (reads_single bottom),
    defaulted_of_holds holdsLeft (reads_single left),
    defaulted_of_holds mainAlign (reads_keywords complete_mainAligns under _),
    optional_keyword_of_holds complete_counterAligns under counterAlign,
    defaulted_of_holds mainSizing (reads_keywords complete_axisSizings under _),
    defaulted_of_holds counterSizing (reads_keywords complete_axisSizings under _),
    defaulted_of_holds wrap (reads_keywords complete_wraps under _),
    optional_single_of_holds holdsLineSpacing lineSpacing,
    defaulted_of_holds lineAlign (reads_keywords complete_lineAligns under _),
    defaulted_of_holds rows (reads_word _), defaulted_of_holds columns (reads_word _),
    optional_single_of_holds holdsRowGap rowGap, optional_single_of_holds holdsColumnGap columnGap,
    defaulted_of_holds clips (reads_boolean _), defaulted_of_holds reversed (reads_boolean _),
    Option.bind_eq_bind, Option.bind_some, Option.pure_def]

end Codec

end SceneMarkup.Scene
