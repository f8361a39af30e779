import SceneMarkup.Proofs.Scene.Codec.Reading
import SceneMarkup.Scene.Codec.Paint

/-!
# Paints and effects are read back

* `Color.numbers` to `Effect.numbers`: the numbers of a record, and of the records in it;
* `reads_color`, `reads_paint`, `reads_effect`: if they are finite, the record is read as it was
  written.
-/

namespace SceneMarkup.Scene

/-! ### Numbers -/

def Color.numbers (color : Color) : List Single := [color.red, color.green, color.blue, color.alpha]

def GradientStop.numbers (stop : GradientStop) : List Single := stop.position :: stop.color.numbers

def Transform.numbers (t : Transform) : List Single := [t.a, t.b, t.tx, t.c, t.d, t.ty]

def Gradient.numbers (gradient : Gradient) : List Single :=
  gradient.stops.flatMap GradientStop.numbers ++ gradient.transform.numbers

def PaintSource.numbers : PaintSource → List Single
  | .solid color => color.numbers
  | .gradient _ course => course.numbers
  | .image => []

def Paint.numbers (paint : Paint) : List Single := paint.opacity :: paint.source.numbers

def Shadow.numbers (shadow : Shadow) : List Single :=
  [shadow.offsetX, shadow.offsetY, shadow.radius, shadow.spread] ++ shadow.color.numbers

def EffectKind.numbers : EffectKind → List Single
  | .dropShadow shadow | .innerShadow shadow => shadow.numbers
  | .layerBlur radius | .backgroundBlur radius => [radius]

def Effect.numbers (effect : Effect) : List Single := effect.kind.numbers

namespace Codec

/-! ### Colors and gradients -/

theorem reads_color {color : Color} (finite : AllFinite color.numbers) :
    Reads readColor (writeColor exactNumber color) color := by
  simp only [AllFinite, Color.numbers, List.forall_mem_cons] at finite
  obtain ⟨red, green, blue, alpha, -⟩ := finite
  refine reads_record (by simp only [List.map]; decide) fun fields holds => ?_
  simp only [holdsAll_cons] at holds
  obtain ⟨holdsRed, holdsGreen, holdsBlue, holdsAlpha, -⟩ := holds
  simp only [required_of_holds holdsRed (reads_single red),
    required_of_holds holdsGreen (reads_single green),
    required_of_holds holdsBlue (reads_single blue),
    defaulted_of_holds holdsAlpha (reads_single alpha), Option.bind_eq_bind, Option.bind_some,
    Option.pure_def]

theorem reads_stop {stop : GradientStop} (finite : AllFinite stop.numbers) :
    Reads readStop (writeStop exactNumber stop) stop := by
  obtain ⟨position, color⟩ := List.forall_mem_cons.1 finite
  refine reads_record (by simp only [List.map]; decide) fun fields holds => ?_
  simp only [holdsAll_cons] at holds
  obtain ⟨holdsPosition, holdsColor, -⟩ := holds
  simp only [required_of_holds holdsPosition (reads_single position),
    required_of_holds holdsColor (reads_color color), Option.bind_eq_bind, Option.bind_some,
    Option.pure_def]

theorem reads_transform {t : Transform} (finite : AllFinite t.numbers) :
    Reads readTransform (writeTransform exactNumber t) t := by
  simp only [AllFinite, Transform.numbers, List.forall_mem_cons] at finite
  obtain ⟨a, b, tx, c, d, ty, -⟩ := finite
  intro other extended
  obtain ⟨rows, rfl, each⟩ := extended.array_inv
  simp only [List.forall₂_cons_left_iff, List.forall₂_nil_left_iff] at each
  obtain ⟨_, _, first, ⟨_, _, second, rfl, rfl⟩, rfl⟩ := each
  obtain ⟨_, rfl, eachFirst⟩ := first.array_inv
  obtain ⟨_, rfl, eachSecond⟩ := second.array_inv
  simp only [List.forall₂_cons_left_iff, List.forall₂_nil_left_iff] at eachFirst eachSecond
  obtain ⟨_, _, extendedA, ⟨_, _, extendedB, ⟨_, _, extendedTx, rfl, rfl⟩, rfl⟩, rfl⟩ := eachFirst
  obtain ⟨_, _, extendedC, ⟨_, _, extendedD, ⟨_, _, extendedTy, rfl, rfl⟩, rfl⟩, rfl⟩ := eachSecond
  simp only [readTransform, reads_single a _ extendedA, reads_single b _ extendedB,
    reads_single tx _ extendedTx, reads_single c _ extendedC, reads_single d _ extendedD,
    reads_single ty _ extendedTy, Option.bind_eq_bind, Option.bind_some, Option.pure_def]

theorem readGradient_of_holds {fields : Fields} {gradient : Gradient}
    (finite : AllFinite gradient.numbers)
    (holds : HoldsAll fields (gradientFields exactNumber gradient)) :
    readGradient fields = some gradient := by
  obtain ⟨finiteStops, finiteTransform⟩ := List.forall_mem_append.1 finite
  simp only [gradientFields, holdsAll_cons] at holds
  obtain ⟨stops, transform, -⟩ := holds
  have each : ∀ stop ∈ gradient.stops, Reads readStop (writeStop exactNumber stop) stop :=
    fun stop mem => reads_stop (List.forall_mem_flatMap.1 finiteStops stop mem)
  simp only [readGradient, defaulted_of_holds stops (reads_items each),
    defaulted_of_holds transform (reads_transform finiteTransform),
    Option.bind_eq_bind, Option.bind_some, Option.pure_def]

/-! ### Paints -/

theorem complete_gradientTypes : gradientTypes.Complete := by
  rintro ⟨⟩ <;> rfl

/-- The type of a gradient is none of the others. -/
theorem gradientTypes_name (shape : GradientShape) :
    gradientTypes.name shape ≠ "SOLID" ∧ gradientTypes.name shape ≠ "IMAGE" := by
  cases shape <;> decide

/-- What is read of a paint's fields is what it draws, and its type is a text. -/
theorem readSource_of_holds {fields : Fields} {source : PaintSource}
    (finite : AllFinite source.numbers)
    (holds : HoldsAll fields (sourceFields exactNumber source)) :
    (required text fields "type").bind (readSource fields) = some source := by
  cases source with
  | solid color =>
    simp only [sourceFields, holdsAll_cons] at holds
    obtain ⟨type, holdsColor, -⟩ := holds
    rw [required_of_holds type (reads_text _), Option.bind_some, readSource, if_pos rfl,
      required_of_holds holdsColor (reads_color finite)]
    rfl
  | image =>
    simp only [sourceFields, holdsAll_cons] at holds
    rw [required_of_holds holds.1 (reads_text _)]
    rfl
  | gradient shape gradient =>
    obtain ⟨type, inside⟩ := holdsAll_cons.1 holds
    obtain ⟨notSolid, notImage⟩ := gradientTypes_name shape
    rw [required_of_holds type (reads_text _), Option.bind_some, readSource, if_neg notSolid,
      if_neg notImage, complete_gradientTypes shape, readGradient_of_holds finite inside]
    rfl

theorem nodup_paintKeys (paint : Paint) :
    ((sourceFields exactNumber paint.source ++
      [("visible", .bool paint.visible), ("opacity", exactNumber paint.opacity)]).map
        Prod.fst).Nodup := by
  cases paint.source <;>
    (simp only [sourceFields, gradientFields, List.map, List.cons_append, List.nil_append]; decide)

theorem reads_paint {paint : Paint} (finite : AllFinite paint.numbers) :
    Reads readPaint (writePaint exactNumber paint) paint := by
  obtain ⟨opacity, source⟩ := List.forall_mem_cons.1 finite
  refine reads_record (nodup_paintKeys paint) fun fields holds => ?_
  obtain ⟨holdsSource, holds⟩ := holdsAll_append.1 holds
  simp only [holdsAll_cons] at holds
  obtain ⟨holdsVisible, holdsOpacity, -⟩ := holds
  obtain ⟨type, isType, here⟩ := Option.bind_eq_some_iff.1 (readSource_of_holds source holdsSource)
  simp only [isType, here, defaulted_of_holds holdsVisible (reads_boolean _),
    defaulted_of_holds holdsOpacity (reads_single opacity), Option.bind_eq_bind, Option.bind_some,
    Option.pure_def]

theorem complete_strokeAligns : strokeAligns.Complete := by
  rintro ⟨⟩ <;> rfl

/-! ### Effects -/

theorem reads_offset {x y : Single} (finite : AllFinite [x, y]) :
    Reads readOffset (.object [("x", exactNumber x), ("y", exactNumber y)]) (x, y) := by
  simp only [AllFinite, List.forall_mem_cons] at finite
  refine reads_record (by simp only [List.map]; decide) fun fields holds => ?_
  simp only [holdsAll_cons] at holds
  obtain ⟨holdsX, holdsY, -⟩ := holds
  simp only [required_of_holds holdsX (reads_single finite.1),
    required_of_holds holdsY (reads_single finite.2.1), Option.bind_eq_bind, Option.bind_some,
    Option.pure_def]

theorem readShadow_of_holds {fields : Fields} {shadow : Shadow} (finite : AllFinite shadow.numbers)
    (holds : HoldsAll fields (shadowFields exactNumber shadow)) :
    readShadow fields = some shadow := by
  simp only [AllFinite, Shadow.numbers, List.forall_mem_append, List.forall_mem_cons] at finite
  obtain ⟨⟨x, y, radius, spread, noMore⟩, color⟩ := finite
  simp only [shadowFields, holdsAll_cons] at holds
  obtain ⟨holdsColor, holdsOffset, holdsRadius, holdsSpread, -⟩ := holds
  have offset : AllFinite [shadow.offsetX, shadow.offsetY] :=
    List.forall_mem_cons.2 ⟨x, List.forall_mem_cons.2 ⟨y, noMore⟩⟩
  simp only [readShadow, defaulted_of_holds holdsOffset (reads_offset offset),
    required_of_holds holdsColor (reads_color color),
    defaulted_of_holds holdsRadius (reads_single radius),
    defaulted_of_holds holdsSpread (reads_single spread), Option.bind_eq_bind, Option.bind_some,
    Option.pure_def]

/-- What is read of an effect's fields is what it does, and its type is a text. -/
theorem readEffectKind_of_holds {fields : Fields} {kind : EffectKind}
    (finite : AllFinite kind.numbers)
    (holds : HoldsAll fields (effectKindFields exactNumber kind)) :
    (required text fields "type").bind (readEffectKind fields) = some kind := by
  cases kind with
  | dropShadow shadow =>
    obtain ⟨type, inside⟩ := holdsAll_cons.1 holds
    rw [required_of_holds type (reads_text _), Option.bind_some, readEffectKind, if_pos rfl,
      readShadow_of_holds finite inside]
    rfl
  | innerShadow shadow =>
    obtain ⟨type, inside⟩ := holdsAll_cons.1 holds
    rw [required_of_holds type (reads_text _), Option.bind_some, readEffectKind, if_neg (by decide),
      if_pos rfl, readShadow_of_holds finite inside]
    rfl
  | layerBlur radius =>
    obtain ⟨type, inside⟩ := holdsAll_cons.1 holds
    rw [required_of_holds type (reads_text _), Option.bind_some, readEffectKind, if_neg (by decide),
      if_neg (by decide), if_pos rfl,
      required_of_holds (holdsAll_cons.1 inside).1 (reads_single (finite _ List.mem_cons_self))]
    rfl
  | backgroundBlur radius =>
    obtain ⟨type, inside⟩ := holdsAll_cons.1 holds
    rw [required_of_holds type (reads_text _), Option.bind_some, readEffectKind, if_neg (by decide),
      if_neg (by decide), if_neg (by decide), if_pos rfl,
      required_of_holds (holdsAll_cons.1 inside).1 (reads_single (finite _ List.mem_cons_self))]
    rfl

theorem nodup_effectKeys (effect : Effect) :
    ((effectKindFields exactNumber effect.kind ++ [("visible", Json.bool effect.visible)]).map
      Prod.fst).Nodup := by
  cases effect.kind <;>
    (simp only [effectKindFields, shadowFields, List.map, List.cons_append, List.nil_append];
      decide)

theorem reads_effect {effect : Effect} (finite : AllFinite effect.numbers) :
    Reads readEffect (writeEffect exactNumber effect) effect := by
  refine reads_record (nodup_effectKeys effect) fun fields holds => ?_
  obtain ⟨holdsKind, holds⟩ := holdsAll_append.1 holds
  obtain ⟨holdsVisible, -⟩ := holdsAll_cons.1 holds
  obtain ⟨type, isType, here⟩ :=
    Option.bind_eq_some_iff.1 (readEffectKind_of_holds finite holdsKind)
  simp only [isType, here, defaulted_of_holds holdsVisible (reads_boolean _), Option.bind_eq_bind,
    Option.bind_some, Option.pure_def]

/-! ### Blending and masks -/

theorem complete_blendModes : blendModes.Complete := by
  rintro ⟨⟩ <;> rfl

theorem complete_maskTypes : maskTypes.Complete := by
  rintro ⟨⟩ <;> rfl

end Codec

end SceneMarkup.Scene
