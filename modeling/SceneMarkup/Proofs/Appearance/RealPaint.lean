import SceneMarkup.Proofs.Appearance.Values
import SceneMarkup.Proofs.Css.RealNumbers
import SceneMarkup.Proofs.Scene.Modest

/-!
# Paint that shows real numbers

Everything that a modest layer paints is written with real numbers.

* `isReal_colorValue`, `isReal_gradientValue`: the values of a color and of a gradient;
* `allReal_boxDeclarations`, `allReal_textPaint`, `allReal_picturePaint`: what a box, letters and a
  picture paint, if the color that stands for pictures shows real numbers;
* `allReal_clipDeclarations`: the shape of a mask.
-/

namespace SceneMarkup

open Appearance (courseAngle?)
open Binary (Within within_clamp within_ofNat)
open Css (AllReal allReal_append allReal_ite allReal_nil allReal_singleton
  allReal_toList isReal_percent isReal_px)
open Scene (Color CornerRadius Effect Gradient GradientShape GradientStop Layer Paint
  Shadow Transform)

/-! ### Colors -/

theorem Scene.Color.isReal_hex (color : Color) : IsReal color.hex := by
  refine isReal_of_length (color.isOf_hex (by decide) (by decide)) ?_
  have length : color.hex.toList.length = 7 := by
    rw [hex, String.toList_ofList]
    rfl
  rw [length]
  decide

namespace Appearance

variable {options : Options}

theorem isReal_bytes (color : Color) : IsReal (", ".intercalate (color.bytes.map toString)) := by
  refine isReal_intercalate (by decide) (List.forall_mem_map.2 fun byte mem => isReal_nat ?_)
  have small : ∀ byte ∈ color.bytes, byte < 256 := by
    simp only [Color.bytes, List.forall_mem_cons]
    exact ⟨Color.byte_lt _, Color.byte_lt _, Color.byte_lt _, fun _ mem => by cases mem⟩
  exact (small byte mem).trans (by decide)

/-- What is clamped is shown as a real number, if it was finite. -/
theorem isReal_fixed_clamp {x : Single} (finite : x.isFinite = true) : IsReal (x.clamp 0 1).fixed :=
  (within_clamp finite).isReal_fixed (by decide)

theorem isReal_colorValue {color : Color} {opacity : Single}
    (inside : ∀ x ∈ color.numbers, Within 40 x) (under : Within 40 opacity) :
    IsReal (colorValue options color opacity) := by
  have own : Within 40 color.alpha := inside _ (by simp [Color.numbers])
  have product : Within 80 (color.alpha * opacity) := own.mul under (by decide)
  have alpha : IsReal (effectiveAlpha color opacity).fixed := isReal_fixed_clamp product.1
  unfold colorValue
  dsimp only
  split
  · exact color.isReal_hex
  · have function : IsMark "rgba(" := by decide
    exact ((function.append (isReal_bytes color)).join (by decide) alpha).append_mark (by decide)

/-! ### Gradients -/

section Course

variable {t : Transform} {shape : GradientShape}

theorem isReal_atPoint {point : Single × Single} (small : Within 57 point.1 ∧ Within 57 point.2) :
    IsReal (atPoint point) :=
  (isReal_percent small.1 (by decide)).join (by decide) (isReal_percent small.2 (by decide))

theorem isReal_linearCourse (small : ∀ angle ∈ courseAngle? .linear t, Within 2 angle) :
    IsReal (linearCourse t) := by
  have angle := (within_linearAngle small).isReal_compact (by decide)
  exact (IsMark.append (by decide) angle).append_mark (by decide)

variable (moderate : ∀ x ∈ t.numbers, Within 8 x)
include moderate

theorem isReal_conicCourse (small : ∀ angle ∈ courseAngle? .angular t, Within 2 angle) :
    IsReal (conicCourse t) := by
  have angle := (within_conicAngle small).isReal_compact (by decide)
  exact (IsMark.append (by decide) angle).join (by decide) (isReal_atPoint (within_center moderate))

theorem isReal_ellipseCourse : IsReal (ellipseCourse t) := by
  have size := isReal_atPoint (within_radii moderate)
  exact (IsMark.append (by decide) size).join (by decide) (isReal_atPoint (within_center moderate))

theorem isReal_circleCourse : IsReal (circleCourse t) :=
  IsMark.append (by decide) (isReal_atPoint (within_center moderate))

theorem isReal_courseOfEllipse (small : ∀ angle ∈ courseAngle? shape t, Within 2 angle) :
    IsReal (courseOfEllipse shape t) := by
  cases shape with
  | linear => exact isReal_linearCourse small
  | angular => exact isReal_conicCourse moderate small
  | radial => exact isReal_ellipseCourse moderate
  | diamond => exact isReal_ellipseCourse moderate

theorem isReal_course (small : ∀ angle ∈ courseAngle? shape t, Within 2 angle) :
    IsReal (course shape t) := by
  have round : IsReal (if isCircle t then circleCourse t else ellipseCourse t) := by
    split
    · exact isReal_circleCourse moderate
    · exact isReal_ellipseCourse moderate
  cases shape with
  | linear => exact isReal_linearCourse small
  | angular => exact isReal_conicCourse moderate small
  | radial => exact round
  | diamond => exact round

end Course

/-- A gradient is written with real numbers if its course and the colors of its stops are. -/
theorem isReal_gradientWith {course : String} (along : IsReal course) {stops : List GradientStop}
    {color : GradientStop → String}
    (each : ∀ stop ∈ stops, IsReal (color stop) ∧ Within 40 stop.position) :
    IsReal (gradientWith course stops color) := by
  have list : IsReal (stopList stops color) := by
    refine isReal_intercalate (by decide) (List.forall_mem_map.2 fun stop mem => ?_)
    have hundred : Within 7 (100 : Single) := within_ofNat (by decide)
    have position : Within 57 (stop.position * 100) := (each stop mem).2.mul hundred (by decide)
    exact (each stop mem).1.join (by decide) (isReal_percent position (by decide))
  exact (along.join (by decide) list).append_mark (by decide)

/-- The colors and the positions of the stops of a gradient. -/
theorem forall_mem_stops {gradient : Gradient} (inside : ∀ x ∈ gradient.numbers, Within 40 x) :
    ∀ stop ∈ gradient.stops, (∀ x ∈ stop.color.numbers, Within 40 x) ∧ Within 40 stop.position := by
  intro stop mem
  have numbers := List.forall_mem_flatMap.1 (List.forall_mem_append.1 inside).1 stop mem
  exact (List.forall_mem_cons.1 numbers).symm

section Paints

variable {paint : Paint} {shape : GradientShape} {gradient : Gradient}

/-- The value of a modest gradient. -/
theorem isReal_gradientValue (modest : paint.IsModest)
    (isGradient : paint.source = .gradient shape gradient) :
    IsReal (gradientValue options shape gradient paint.opacity) := by
  have inside := modest.inside
  have source := modest.source
  rw [isGradient] at inside source
  exact isReal_gradientWith (isReal_course source.1 source.2) fun stop mem =>
    ⟨isReal_colorValue (forall_mem_stops inside stop mem).1 modest.opacity,
      (forall_mem_stops inside stop mem).2⟩

/-- The value of a color that is painted. -/
theorem isReal_solidValue (modest : paint.IsModest) {color : Color}
    (isSolid : paint.source = .solid color) :
    IsReal (colorValue options color paint.opacity) := by
  have inside := modest.inside
  rw [isSolid] at inside
  exact isReal_colorValue inside modest.opacity

theorem isReal_paintValue? (modest : paint.IsModest) :
    ∀ value ∈ paintValue? options paint, IsReal value := by
  intro value mem
  unfold paintValue? at mem
  split at mem
  · next isSolid =>
    obtain rfl := Option.some.inj mem
    exact isReal_solidValue modest isSolid
  · next isGradient =>
    obtain rfl := Option.some.inj mem
    exact isReal_gradientValue modest isGradient
  · cases mem

/-- The channels of a bright stop may be large, but what is left of their luminance is not. -/
theorem isReal_luminanceStop (modest : paint.IsModest) {stop : GradientStop}
    (inside : ∀ x ∈ stop.color.numbers, Within 40 x) :
    IsReal (luminanceStop paint.opacity stop) := by
  simp only [Color.numbers, List.forall_mem_cons] at inside
  obtain ⟨red, green, blue, alpha, -⟩ := inside
  have weights : Within 0 (0.2126 : Single) ∧ Within 0 (0.7152 : Single) ∧
      Within 0 (0.0722 : Single) := by
    decide +kernel
  have first : Within 40 (0.2126 * stop.color.red) := weights.1.mul red (by decide)
  have second : Within 40 (0.7152 * stop.color.green) := weights.2.1.mul green (by decide)
  have third : Within 40 (0.0722 * stop.color.blue) := weights.2.2.mul blue (by decide)
  have pair : Within 41 (0.2126 * stop.color.red + 0.7152 * stop.color.green) :=
    first.add second (by decide)
  have luminance : Within 42 stop.color.luminance := pair.add third (by decide)
  have shown : Within 82 (stop.color.luminance * stop.color.alpha) :=
    luminance.mul alpha (by decide)
  have product : Within 122 (stop.color.luminance * stop.color.alpha * paint.opacity) :=
    shown.mul modest.opacity (by decide)
  exact (IsMark.append (by decide) (isReal_fixed_clamp product.1)).append_mark (by decide)

end Paints

/-! ### Fills -/

section Fills

variable {fills : List Paint}

theorem mem_of_primaryFill? {paint : Paint} (primary : paint ∈ primaryFill? fills) :
    paint ∈ fills :=
  List.mem_of_find?_eq_some primary

variable (modest : ∀ paint ∈ fills, paint.IsModest)
include modest

theorem isReal_fillValue? (placeholder : IsReal options.placeholderColor) :
    ∀ value ∈ fillValue? options fills, IsReal value := by
  intro value mem
  rcases Option.or_eq_some_iff.1 mem with shown | ⟨-, stands⟩
  · obtain ⟨paint, visible, painted⟩ := List.exists_of_findSome?_eq_some shown
    exact isReal_paintValue? (modest paint (List.mem_filter.1 visible).1) value painted
  · split at stands
    · rwa [← Option.some.inj stands]
    · cases stands

theorem allReal_textPaint (placeholder : IsReal options.placeholderColor) :
    AllReal (textPaint options fills) := by
  unfold textPaint
  split
  · next paint primary =>
    have painted := modest paint (mem_of_primaryFill? primary)
    split
    · next isSolid => exact allReal_singleton (isReal_solidValue painted isSolid)
    · next isGradient => exact .cons (isReal_gradientValue painted isGradient) (by decide)
    · exact allReal_nil
  · exact allReal_ite (allReal_singleton placeholder) allReal_nil

end Fills

theorem isReal_maskImage? {mask : Layer} (modest : ∀ paint ∈ mask.fills, paint.IsModest) :
    ∀ image ∈ maskImage? options mask, IsReal image := by
  intro image mem
  obtain ⟨paint, primary, shown⟩ := Option.bind_eq_some_iff.1 mem
  have painted := modest paint (mem_of_primaryFill? primary)
  split at shown
  · next shape gradient isGradient =>
    split at shown
    · obtain rfl := Option.some.inj shown
      have inside := painted.inside
      have source := painted.source
      rw [isGradient] at inside source
      exact isReal_gradientWith (isReal_courseOfEllipse source.1 source.2) fun stop mem =>
        ⟨isReal_luminanceStop painted (forall_mem_stops inside stop mem).1,
          (forall_mem_stops inside stop mem).2⟩
    · obtain rfl := Option.some.inj shown
      exact isReal_gradientValue painted isGradient
  · cases shown
  · cases shown

/-! ### Boxes -/

/-- Lengths with blanks between them. -/
theorem isReal_lengths {lengths : List Single} (small : ∀ length ∈ lengths, Within 40 length) :
    IsReal (" ".intercalate (lengths.map Css.px)) :=
  isReal_intercalate (by decide) (List.forall_mem_map.2 fun length mem =>
    isReal_px (small length mem) (by decide))

theorem isReal_radiusValue? {corners : CornerRadius} (small : ∀ x ∈ corners.numbers, Within 40 x) :
    ∀ radius ∈ radiusValue? corners, IsReal radius := by
  intro radius mem
  cases corners with
  | square => cases mem
  | uniform length =>
    obtain rfl := Option.some.inj mem
    exact isReal_px (small length List.mem_cons_self) (by decide)
  | each topLeft topRight bottomRight bottomLeft =>
    obtain rfl := Option.some.inj mem
    exact isReal_lengths small

section Shadows

variable {shadow : Shadow} (small : ∀ x ∈ shadow.numbers, Within 40 x)
include small

theorem isReal_shadowColor : IsReal (colorValue options shadow.color 1) := by
  have whole : Within 40 (1 : Single) := within_ofNat (by decide)
  exact isReal_colorValue (List.forall_mem_append.1 small).2 whole

theorem isReal_shadowLengths {lengths : List Single}
    (given : lengths ⊆ [shadow.offsetX, shadow.offsetY, shadow.radius, shadow.spread]) :
    IsReal (" ".intercalate (lengths.map Css.px)) :=
  isReal_lengths fun length mem => (List.forall_mem_append.1 small).1 length (given mem)

theorem isReal_boxShadow (inner : Bool) : IsReal (boxShadow options inner shadow) := by
  have lengths := isReal_shadowLengths small (List.Subset.refl _)
  unfold boxShadow
  refine IsReal.join ?_ (by decide) (isReal_shadowColor small)
  cases inner with
  | false =>
    rw [if_neg Bool.false_ne_true, String.empty_append]
    exact lengths
  | true => exact IsMark.append (by decide) lengths

end Shadows

/-! ### Layers -/

theorem allReal_shadowDeclaration {property : String} {shadows : List String}
    (each : ∀ shadow ∈ shadows, IsReal shadow) : AllReal (shadowDeclaration property shadows) :=
  allReal_ite allReal_nil (allReal_singleton (isReal_intercalate (by decide) each))

theorem allReal_blurDeclaration {property : String} {radii : List Single}
    (small : ∀ radius ∈ radii, Within 40 radius) : AllReal (blurDeclaration property radii) := by
  unfold blurDeclaration
  split
  · next radius last =>
    have half : Within 40 (radius / 2) :=
      (small radius (List.mem_of_getLast? last)).halved (by decide)
    exact allReal_singleton
      ((IsMark.append (by decide) (isReal_px half (by decide))).append_mark (by decide))
  · exact allReal_nil

theorem isReal_blendKeyword? (mode : Scene.BlendMode) :
    ∀ keyword ∈ blendKeyword? mode, IsReal keyword := by
  cases mode <;> decide

section Layers

variable {layer : Layer} (modest : layer.IsModest)
include modest

theorem allReal_layerDeclarations : AllReal (layerDeclarations options layer) :=
  allReal_append.2
    ⟨allReal_ite allReal_nil (allReal_singleton (modest.opacity.isReal_compact (by decide))),
      allReal_toList (isReal_blendKeyword? _)⟩

/-- A stroke, and the shadow that it adds. -/
theorem real_strokeStyle? : ∀ style ∈ strokeStyle? options layer,
    AllReal style.parts.1 ∧ ∀ shadow ∈ style.parts.2, IsReal shadow := by
  intro style mem
  unfold strokeStyle? at mem
  split at mem
  · cases mem
  · obtain ⟨paint, first, shown⟩ := Option.bind_eq_some_iff.1 mem
    split at shown
    · next color isSolid =>
      obtain rfl := Option.some.inj shown
      have painted : paint.IsModest :=
        ⟨modest.strokes paint (List.mem_of_find?_eq_some first), by rw [isSolid]; trivial⟩
      have value : IsReal (colorValue options color paint.opacity) :=
        isReal_solidValue painted isSolid
      have width : IsReal (Css.px layer.strokeWeight) := isReal_px modest.strokeWeight (by decide)
      have line :
          IsReal (Css.px layer.strokeWeight ++ " solid " ++
            colorValue options color paint.opacity) :=
        width.join (by decide) value
      cases layer.strokeAlign with
      | inside =>
        refine ⟨allReal_nil, List.forall_mem_singleton.2 ?_⟩
        exact (IsMark.append (by decide) width).join (by decide) value
      | outside => exact ⟨.cons line (by decide), fun _ mem => by cases mem⟩
      | center => exact ⟨allReal_singleton line, fun _ mem => by cases mem⟩
    · cases shown
    · cases shown

/-- The numbers of an effect that shows. -/
theorem within_visibleEffects :
    ∀ effect ∈ visibleEffects layer, ∀ x ∈ effect.kind.numbers, Within 40 x :=
  fun effect mem => modest.effects effect (List.mem_filter.1 mem).1

theorem isReal_boxShadows : ∀ shadow ∈ boxShadows options layer, IsReal shadow := by
  intro shadow mem
  obtain ⟨effect, visible, shown⟩ := List.mem_filterMap.1 mem
  have numbers := within_visibleEffects modest effect visible
  unfold boxShadow? at shown
  cases kind : effect.kind <;> rw [kind] at shown numbers <;> cases shown
  case dropShadow => exact isReal_boxShadow numbers false
  case innerShadow => exact isReal_boxShadow numbers true

theorem isReal_textShadows : ∀ shadow ∈ textShadows options layer, IsReal shadow := by
  intro shadow mem
  obtain ⟨effect, visible, shown⟩ := List.mem_filterMap.1 mem
  have numbers := within_visibleEffects modest effect visible
  unfold textShadow? at shown
  cases kind : effect.kind <;> rw [kind] at shown numbers <;> cases shown
  case dropShadow =>
    exact (isReal_shadowLengths numbers (by simp)).join (by decide) (isReal_shadowColor numbers)

theorem allReal_blurs : AllReal (blurs layer) := by
  have radius : ∀ {blur? : Effect → Option Single},
      (∀ effect, ∀ radius ∈ blur? effect, radius ∈ effect.kind.numbers) →
        ∀ radius ∈ (visibleEffects layer).filterMap blur?, Within 40 radius := by
    intro blur? isNumber radius mem
    obtain ⟨effect, visible, shown⟩ := List.mem_filterMap.1 mem
    exact within_visibleEffects modest effect visible radius (isNumber effect radius shown)
  refine allReal_append.2 ⟨allReal_blurDeclaration (radius ?_), allReal_blurDeclaration (radius ?_)⟩
  · intro effect radius shown
    unfold layerBlur? at shown
    cases kind : effect.kind <;> rw [kind] at shown <;> cases shown
    exact List.mem_cons_self
  · intro effect radius shown
    unfold backgroundBlur? at shown
    cases kind : effect.kind <;> rw [kind] at shown <;> cases shown
    exact List.mem_cons_self

theorem allReal_boxDeclarations (placeholder : IsReal options.placeholderColor) :
    AllReal (boxDeclarations options layer) := by
  have stroke :
      ∀ parts, parts = ((strokeStyle? options layer).map StrokeStyle.parts).getD ([], []) →
      AllReal parts.1 ∧ ∀ shadow ∈ parts.2, IsReal shadow := by
    rintro parts rfl
    cases style : strokeStyle? options layer with
    | none => exact ⟨allReal_nil, fun _ mem => by cases mem⟩
    | some style' => exact real_strokeStyle? modest style' style
  obtain ⟨lines, shadows⟩ := stroke _ rfl
  simp only [boxDeclarations, allReal_append]
  exact ⟨⟨⟨⟨⟨allReal_toList (isReal_fillValue? modest.fills placeholder), lines⟩,
    allReal_toList (isReal_radiusValue? modest.corners)⟩,
    allReal_shadowDeclaration (List.forall_mem_append.2 ⟨shadows, isReal_boxShadows modest⟩)⟩,
    allReal_blurs modest⟩, allReal_layerDeclarations modest⟩

end Layers

end Appearance

namespace Emission

variable {options : Options} {layer : Layer}

theorem allReal_picturePaint (modest : layer.IsModest)
    (placeholder : IsReal options.placeholderColor) (asset : Picture.Asset) :
    AllReal (picturePaint options layer asset) := by
  refine allReal_append.2 ⟨?_, Appearance.allReal_layerDeclarations modest⟩
  cases asset with
  | svg text => exact allReal_nil
  | placeholder => exact .cons placeholder (allReal_ite (by decide) allReal_nil)

theorem isReal_clipPath? (modest : layer.IsModest) : ∀ path ∈ clipPath? layer, IsReal path := by
  intro path mem
  rcases clipPath?_cases layer with absent | ellipse | square | ⟨radius, isRadius, rounded⟩
  · rw [absent] at mem
    cases mem
  · obtain rfl := Option.some.inj (ellipse.symm.trans mem)
    decide
  · obtain rfl := Option.some.inj (square.symm.trans mem)
    decide
  · obtain rfl := Option.some.inj (rounded.symm.trans mem)
    have value := Appearance.isReal_radiusValue? modest.corners radius isRadius
    exact (IsMark.append (by decide) value).append_mark (by decide)

theorem allReal_clipDeclarations (modest : layer.IsModest) :
    AllReal (clipDeclarations options layer) := by
  refine allReal_append.2 ⟨allReal_toList (isReal_clipPath? modest), ?_⟩
  split
  · next image shown =>
    have value := Appearance.isReal_maskImage? modest.fills image shown
    exact .cons value (allReal_singleton value)
  · exact allReal_nil

end Emission

end SceneMarkup
