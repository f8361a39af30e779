import SceneMarkup.Proofs.Scene.Codec.Paint
import SceneMarkup.Scene.Codec.TextStyle

/-!
# Texts are read back

* `TextStyle.numbers`: the numbers of a text and of its segments;
* `reads_lineHeight`, `reads_letterSpacing`, `reads_segment`: the records of a text;
* `readTextStyle_of_holds`: a text is read from the fields that it was written to.
-/

namespace SceneMarkup.Scene

def LineHeight.numbers : LineHeight → List Single
  | .auto => []
  | .percent value | .pixels value => [value]

def LetterSpacing.numbers : LetterSpacing → List Single
  | .percent value | .pixels value => [value]

def Segment.numbers (segment : Segment) : List Single := segment.fills.flatMap Paint.numbers

def TextStyle.numbers (style : TextStyle) : List Single :=
  [style.fontSize, style.paragraphSpacing] ++ style.lineHeight.numbers ++
    style.letterSpacing.numbers ++
    style.segments.flatMap Segment.numbers

namespace Codec

/-! ### Enumerations -/

theorem complete_textAligns : textAligns.Complete := by
  rintro ⟨⟩ <;> rfl

theorem complete_textCases : textCases.Complete := by
  rintro ⟨⟩ <;> rfl

theorem complete_textDecorations : textDecorations.Complete := by
  rintro ⟨⟩ <;> rfl

theorem complete_autoResizes : autoResizes.Complete := by
  rintro ⟨⟩ <;> rfl

/-! ### Records of a text -/

theorem reads_font (font : FontName) : Reads readFont (writeFont font) font := by
  refine reads_record (by simp only [List.map]; decide) fun fields holds => ?_
  simp only [holdsAll_cons] at holds
  obtain ⟨family, style, -⟩ := holds
  simp only [required_of_holds family (reads_text _), required_of_holds style (reads_text _),
    Option.bind_eq_bind, Option.bind_some, Option.pure_def]

/-- A unit and a value are read from their fields. -/
theorem measure_of_holds {fields : Fields} {unit : String} {value : Single}
    (holds : HoldsAll fields [("unit", .string unit), ("value", exactNumber value)])
    (finite : AllFinite [value]) :
    required text fields "unit" = some unit ∧ required single fields "value" = some value := by
  simp only [holdsAll_cons] at holds
  exact ⟨required_of_holds holds.1 (reads_text unit),
    required_of_holds holds.2.1 (reads_single (finite value List.mem_cons_self))⟩

theorem reads_lineHeight {height : LineHeight} (finite : AllFinite height.numbers) :
    Reads readLineHeight (writeLineHeight exactNumber height) height := by
  cases height with
  | auto =>
    refine reads_record (by simp only [List.map]; decide) fun fields holds => ?_
    simp [required_of_holds (holdsAll_cons.1 holds).1 (reads_text _)]
  | percent value =>
    refine reads_record (by simp only [List.map]; decide) fun fields holds => ?_
    obtain ⟨unit, number⟩ := measure_of_holds holds finite
    simp [unit, number]
  | pixels value =>
    refine reads_record (by simp only [List.map]; decide) fun fields holds => ?_
    obtain ⟨unit, number⟩ := measure_of_holds holds finite
    simp [unit, number]

theorem reads_letterSpacing {spacing : LetterSpacing} (finite : AllFinite spacing.numbers) :
    Reads readLetterSpacing (writeLetterSpacing exactNumber spacing) spacing := by
  cases spacing with
  | percent value =>
    refine reads_record (by simp only [List.map]; decide) fun fields holds => ?_
    obtain ⟨unit, number⟩ := measure_of_holds holds finite
    simp [unit, number]
  | pixels value =>
    refine reads_record (by simp only [List.map]; decide) fun fields holds => ?_
    obtain ⟨unit, number⟩ := measure_of_holds holds finite
    simp [unit, number]

theorem reads_segment {segment : Segment} (finite : AllFinite segment.numbers) :
    Reads readSegment (writeSegment exactNumber segment) segment := by
  refine reads_record (by simp only [List.map]; decide) fun fields holds => ?_
  simp only [holdsAll_cons] at holds
  obtain ⟨characters, fills, -⟩ := holds
  have each : ∀ paint ∈ segment.fills, Reads readPaint (writePaint exactNumber paint) paint :=
    fun paint mem => reads_paint (List.forall_mem_flatMap.1 finite paint mem)
  simp only [required_of_holds characters (reads_text _),
    defaulted_of_holds fills (reads_items each), Option.bind_eq_bind, Option.bind_some,
    Option.pure_def]

/-! ### Texts -/

/-- A text is read from the fields that it was written to. -/
theorem readTextStyle_of_holds {fields : Fields} {style : TextStyle}
    (finite : AllFinite style.numbers)
    (holds : HoldsAll fields (textStyleFields exactNumber style)) :
    readTextStyle fields = some style := by
  simp only [AllFinite, TextStyle.numbers, List.forall_mem_append, List.forall_mem_cons] at finite
  obtain ⟨⟨⟨⟨size, paragraph, -⟩, height⟩, spacing⟩, inSegments⟩ := finite
  simp only [textStyleFields, holdsAll_cons] at holds
  obtain ⟨characters, font, holdsSize, holdsHeight, holdsSpacing, align, case, decoration,
    holdsParagraph, autoResize, segments, -⟩ := holds
  have each : ∀ segment ∈ style.segments,
      Reads readSegment (writeSegment exactNumber segment) segment :=
    fun segment mem => reads_segment (List.forall_mem_flatMap.1 inSegments segment mem)
  simp only [readTextStyle, defaulted_of_holds characters (reads_text _),
    defaulted_of_holds font (reads_font _), defaulted_of_holds holdsSize (reads_single size),
    defaulted_of_holds holdsHeight (reads_lineHeight height),
    defaulted_of_holds holdsSpacing (reads_letterSpacing spacing),
    defaulted_of_holds align (reads_keywords complete_textAligns .nullOrEmpty _),
    defaulted_of_holds case (reads_keywords complete_textCases .nullOrEmpty _),
    defaulted_of_holds decoration (reads_keywords complete_textDecorations .nullOrEmpty _),
    defaulted_of_holds holdsParagraph (reads_single paragraph),
    defaulted_of_holds autoResize (reads_keywords complete_autoResizes .nullOrEmpty _),
    defaulted_of_holds segments (reads_items each), Option.bind_eq_bind, Option.bind_some,
    Option.pure_def]

end Codec

end SceneMarkup.Scene
