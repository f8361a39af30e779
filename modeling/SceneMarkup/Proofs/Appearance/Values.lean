import SceneMarkup.Appearance.Box
import SceneMarkup.Emission.Leaf
import SceneMarkup.Proofs.Css.Values

/-!
# How paint is written

Nothing that a design names is part of a paint: its values are numbers, colors and functions.

* `isValue_colorValue`, `isValue_gradientValue`: the values of a color and of a gradient;
* `allTame_boxDeclarations`, `allTame_textPaint`, `allTame_picturePaint`: what a box, letters and a
  picture paint, if the color that stands for pictures is a value;
* `allTame_clipDeclarations`: the shape of a mask.
-/

namespace SceneMarkup

open Css (AllTame NamesNothing allTame_append allTame_ite allTame_nil
  allTame_singleton allTame_toList isValue_percent isValue_px)
open Scene (Color Gradient GradientShape GradientStop Layer Paint Shadow Transform)
open Text (isOf_intercalate isOf_ofList)

/-! ### Colors -/

theorem Binary.truncate_le {f : Format} (x : Binary f) {low high : Int} (ordered : low ≤ high)
    (positive : 0 ≤ high) : x.truncate low high ≤ high := by
  unfold truncate
  split
  · omega
  · split <;> omega
  · exact positive

theorem Scene.Color.byte_lt (channel : Single) : byte channel < 256 := by
  have le : (channel.clamp 0 1 * 255).roundHalfAway.truncate 0 255 ≤ 255 :=
    Binary.truncate_le _ (by decide) (by decide)
  unfold byte
  omega

/-- The digits of a color, and the mark in front of them. -/
theorem Scene.Color.isOf_hex {kind : Char → Bool} (mark : kind '#' = true)
    (digits : ∀ n < 16, kind (hexDigit n) = true) (color : Color) : Text.IsOf kind color.hex := by
  have pair : ∀ byte < 256, ∀ c ∈ hexByte byte, kind c = true := by
    intro byte small c mem
    simp only [hexByte, List.mem_cons, List.not_mem_nil, or_false] at mem
    rcases mem with rfl | rfl
    · exact digits _ (by omega)
    · exact digits _ (Nat.mod_lt _ (by decide))
  refine isOf_ofList.2 (List.forall_mem_cons.2 ⟨mark, List.forall_mem_flatMap.2 fun byte mem => ?_⟩)
  simp only [bytes, List.mem_cons, List.not_mem_nil, or_false] at mem
  rcases mem with rfl | rfl | rfl <;> exact pair _ (byte_lt _)

theorem Scene.Color.isValue_hex (color : Color) : IsValue color.hex :=
  color.isOf_hex (by decide) (by decide)

namespace Appearance

variable {options : Options}

theorem isValue_colorValue (color : Color) (opacity : Single) :
    IsValue (colorValue options color opacity) := by
  have bytes : IsValue (", ".intercalate (color.bytes.map toString)) := by
    refine isOf_intercalate (by decide) fun text mem => ?_
    obtain ⟨byte, -, rfl⟩ := List.mem_map.1 mem
    exact isValue_nat byte
  unfold colorValue
  dsimp only
  split
  · exact color.isValue_hex
  · have channels : IsValue ("rgba(" ++ ", ".intercalate (color.bytes.map toString) ++ ", ") :=
      .append (.append (by decide) bytes) (by decide)
    exact (channels.append (isValue_fixed _)).append (by decide)

theorem isValue_shade (alpha : Single) : IsValue (shade alpha) :=
  .append (.append (by decide) (isValue_fixed alpha)) (by decide)

/-! ### Gradients -/

theorem isValue_atPoint (point : Single × Single) : IsValue (atPoint point) :=
  ((isValue_percent _).append (by decide)).append (isValue_percent _)

theorem isValue_linearCourse (t : Transform) : IsValue (linearCourse t) :=
  .append (.append (by decide) (isValue_compact _)) (by decide)

theorem isValue_conicCourse (t : Transform) : IsValue (conicCourse t) :=
  .append (.append (.append (by decide) (isValue_compact _)) (by decide)) (isValue_atPoint _)

theorem isValue_ellipseCourse (t : Transform) : IsValue (ellipseCourse t) :=
  .append (.append (.append (by decide) (isValue_atPoint _)) (by decide)) (isValue_atPoint _)

theorem isValue_circleCourse (t : Transform) : IsValue (circleCourse t) :=
  .append (by decide) (isValue_atPoint _)

theorem isValue_course (shape : GradientShape) (t : Transform) : IsValue (course shape t) := by
  have round : IsValue (if isCircle t then circleCourse t else ellipseCourse t) := by
    split
    · exact isValue_circleCourse t
    · exact isValue_ellipseCourse t
  cases shape with
  | linear => exact isValue_linearCourse t
  | angular => exact isValue_conicCourse t
  | radial => exact round
  | diamond => exact round

theorem isValue_courseOfEllipse (shape : GradientShape) (t : Transform) :
    IsValue (courseOfEllipse shape t) := by
  cases shape with
  | linear => exact isValue_linearCourse t
  | angular => exact isValue_conicCourse t
  | radial => exact isValue_ellipseCourse t
  | diamond => exact isValue_ellipseCourse t

/-- A gradient is written with values if its course and the colors of its stops are. -/
theorem isValue_gradientWith {course : String} (along : IsValue course) (stops : List GradientStop)
    {color : GradientStop → String} (colors : ∀ stop, IsValue (color stop)) :
    IsValue (gradientWith course stops color) := by
  have list : IsValue (stopList stops color) := by
    refine isOf_intercalate (by decide) fun text mem => ?_
    obtain ⟨stop, -, rfl⟩ := List.mem_map.1 mem
    exact ((colors stop).append (by decide)).append (isValue_percent _)
  exact ((along.append (by decide)).append list).append (by decide)

theorem isValue_gradientValue (shape : GradientShape) (gradient : Gradient) (opacity : Single) :
    IsValue (gradientValue options shape gradient opacity) :=
  isValue_gradientWith (isValue_course shape _) _ fun stop => isValue_colorValue stop.color opacity

/-! ### Fills -/

theorem isValue_paintValue? (paint : Paint) :
    ∀ value ∈ paintValue? options paint, IsValue value := by
  intro value mem
  unfold paintValue? at mem
  split at mem
  · obtain rfl := Option.some.inj mem
    exact isValue_colorValue _ _
  · obtain rfl := Option.some.inj mem
    exact isValue_gradientValue _ _ _
  · cases mem

variable (placeholder : IsValue options.placeholderColor)
include placeholder

theorem isValue_fillValue? (fills : List Paint) :
    ∀ value ∈ fillValue? options fills, IsValue value := by
  intro value mem
  rcases Option.or_eq_some_iff.1 mem with shown | ⟨-, stands⟩
  · obtain ⟨paint, -, painted⟩ := List.exists_of_findSome?_eq_some shown
    exact isValue_paintValue? paint value painted
  · split at stands
    · rwa [← Option.some.inj stands]
    · cases stands

theorem allTame_textPaint (fills : List Paint) : AllTame (textPaint options fills) := by
  unfold textPaint
  split
  · split
    · exact allTame_singleton (by decide) (isValue_colorValue _ _)
    · exact .cons (by decide) (isValue_gradientValue _ _ _) (by decide)
    · exact allTame_nil
  · exact allTame_ite (allTame_singleton (by decide) placeholder) allTame_nil

omit placeholder

theorem isValue_maskImage? (mask : Layer) : ∀ image ∈ maskImage? options mask, IsValue image := by
  intro image mem
  obtain ⟨paint, -, shown⟩ := Option.bind_eq_some_iff.1 mem
  split at shown
  · split at shown
    · obtain rfl := Option.some.inj shown
      exact isValue_gradientWith (isValue_courseOfEllipse _ _) _ fun stop => isValue_shade _
    · obtain rfl := Option.some.inj shown
      exact isValue_gradientValue _ _ _
  · cases shown
  · cases shown

/-! ### Boxes -/

/-- Lengths with blanks between them. -/
theorem isValue_lengths (lengths : List Single) :
    IsValue (" ".intercalate (lengths.map Css.px)) := by
  refine isOf_intercalate (by decide) fun text mem => ?_
  obtain ⟨length, -, rfl⟩ := List.mem_map.1 mem
  exact isValue_px length

theorem isValue_radiusValue? (corners : Scene.CornerRadius) :
    ∀ radius ∈ radiusValue? corners, IsValue radius := by
  intro radius mem
  cases corners with
  | square => cases mem
  | uniform length =>
    obtain rfl := Option.some.inj mem
    exact isValue_px length
  | each topLeft topRight bottomRight bottomLeft =>
    obtain rfl := Option.some.inj mem
    exact isValue_lengths _

/-- A stroke, and the shadow that it adds. -/
theorem tame_strokeStyle? (layer : Layer) :
    ∀ style ∈ strokeStyle? options layer,
      AllTame style.parts.1 ∧ ∀ shadow ∈ style.parts.2, IsValue shadow := by
  intro style mem
  unfold strokeStyle? at mem
  split at mem
  · cases mem
  · obtain ⟨paint, -, shown⟩ := Option.bind_eq_some_iff.1 mem
    split at shown
    · next color _ =>
      obtain rfl := Option.some.inj shown
      have value : IsValue (colorValue options color paint.opacity) := isValue_colorValue _ _
      have line : IsValue (Css.px layer.strokeWeight ++ " solid " ++
          colorValue options color paint.opacity) :=
        ((isValue_px _).append (by decide)).append value
      cases layer.strokeAlign with
      | inside =>
        refine ⟨allTame_nil, List.forall_mem_singleton.2 ?_⟩
        exact .append (.append (.append (by decide) (isValue_px _)) (by decide)) value
      | outside =>
        exact ⟨.cons (by decide) line (by decide), fun _ mem => by cases mem⟩
      | center => exact ⟨allTame_singleton (by decide) line, fun _ mem => by cases mem⟩
    · cases shown
    · cases shown

theorem isValue_boxShadow (inner : Bool) (shadow : Shadow) :
    IsValue (boxShadow options inner shadow) := by
  have side : IsValue (if inner then "inset " else "") := by cases inner <;> decide
  exact ((side.append (isValue_lengths _)).append (by decide)).append (isValue_colorValue _ _)

theorem isValue_boxShadows (layer : Layer) :
    ∀ shadow ∈ boxShadows options layer, IsValue shadow := by
  intro shadow mem
  obtain ⟨effect, -, shown⟩ := List.mem_filterMap.1 mem
  unfold boxShadow? at shown
  split at shown
  · obtain rfl := Option.some.inj shown
    exact isValue_boxShadow _ _
  · obtain rfl := Option.some.inj shown
    exact isValue_boxShadow _ _
  · cases shown
  · cases shown

theorem isValue_textShadows (layer : Layer) :
    ∀ shadow ∈ textShadows options layer, IsValue shadow := by
  intro shadow mem
  obtain ⟨effect, -, shown⟩ := List.mem_filterMap.1 mem
  unfold textShadow? at shown
  split at shown
  · obtain rfl := Option.some.inj shown
    exact ((isValue_lengths _).append (by decide)).append (isValue_colorValue _ _)
  · cases shown
  · cases shown
  · cases shown

theorem allTame_shadowDeclaration {property : String} (isPlain : NamesNothing property)
    {shadows : List String} (each : ∀ shadow ∈ shadows, IsValue shadow) :
    AllTame (shadowDeclaration property shadows) :=
  allTame_ite allTame_nil (allTame_singleton isPlain (isOf_intercalate (by decide) each))

theorem allTame_blurDeclaration {property : String} (isPlain : NamesNothing property)
    (radii : List Single) :
    AllTame (blurDeclaration property radii) := by
  unfold blurDeclaration
  split
  · exact allTame_singleton isPlain (.append (.append (by decide) (isValue_px _)) (by decide))
  · exact allTame_nil

theorem allTame_blurs (layer : Layer) : AllTame (blurs layer) :=
  allTame_append.2
    ⟨allTame_blurDeclaration (by decide) _, allTame_blurDeclaration (by decide) _⟩

theorem isValue_blendKeyword? (mode : Scene.BlendMode) :
    ∀ keyword ∈ blendKeyword? mode, IsValue keyword := by
  cases mode <;> decide

theorem allTame_layerDeclarations (layer : Layer) : AllTame (layerDeclarations options layer) :=
  allTame_append.2
    ⟨allTame_ite allTame_nil (allTame_singleton (by decide) (isValue_compact _)),
      allTame_toList (by decide) (isValue_blendKeyword? _)⟩

include placeholder

theorem allTame_boxDeclarations (layer : Layer) : AllTame (boxDeclarations options layer) := by
  have stroke :
      ∀ parts, parts = ((strokeStyle? options layer).map StrokeStyle.parts).getD ([], []) →
      AllTame parts.1 ∧ ∀ shadow ∈ parts.2, IsValue shadow := by
    rintro parts rfl
    cases style : strokeStyle? options layer with
    | none => exact ⟨allTame_nil, fun _ mem => by cases mem⟩
    | some style' => exact tame_strokeStyle? layer style' style
  obtain ⟨lines, shadows⟩ := stroke _ rfl
  simp only [boxDeclarations, allTame_append]
  exact ⟨⟨⟨⟨⟨allTame_toList (by decide) (isValue_fillValue? placeholder _), lines⟩,
    allTame_toList (by decide) (isValue_radiusValue? _)⟩,
    allTame_shadowDeclaration (by decide)
      (List.forall_mem_append.2 ⟨shadows, isValue_boxShadows layer⟩)⟩,
    allTame_blurs layer⟩, allTame_layerDeclarations layer⟩

end Appearance

namespace Emission

variable {options : Options}

theorem allTame_picturePaint (placeholder : IsValue options.placeholderColor) (layer : Layer)
    (asset : Picture.Asset) : AllTame (picturePaint options layer asset) := by
  refine allTame_append.2 ⟨?_, Appearance.allTame_layerDeclarations layer⟩
  cases asset with
  | svg text => exact allTame_nil
  | placeholder =>
    exact .cons (by decide) placeholder (allTame_ite (by decide) allTame_nil)

/-- A mask cuts nothing, or an ellipse, or a box with its corners. -/
theorem clipPath?_cases (mask : Layer) :
    clipPath? mask = none ∨ clipPath? mask = some "ellipse(50% 50% at 50% 50%)" ∨
      clipPath? mask = some "inset(0)" ∨
        ∃ radius ∈ Appearance.radiusValue? mask.corners,
          clipPath? mask = some ("inset(0 round " ++ radius ++ ")") := by
  unfold clipPath?
  cases mask.kind <;> cases Appearance.radiusValue? mask.corners <;> simp

theorem isValue_clipPath? (mask : Layer) : ∀ path ∈ clipPath? mask, IsValue path := by
  intro path mem
  rcases clipPath?_cases mask with absent | ellipse | square | ⟨radius, isRadius, rounded⟩
  · rw [absent] at mem
    cases mem
  · obtain rfl := Option.some.inj (ellipse.symm.trans mem)
    decide
  · obtain rfl := Option.some.inj (square.symm.trans mem)
    decide
  · obtain rfl := Option.some.inj (rounded.symm.trans mem)
    have value := Appearance.isValue_radiusValue? _ radius isRadius
    exact .append (.append (by decide) value) (by decide)

theorem allTame_clipDeclarations (mask : Layer) : AllTame (clipDeclarations options mask) := by
  refine allTame_append.2 ⟨allTame_toList (by decide) (isValue_clipPath? mask), ?_⟩
  split
  · next image shown =>
    have value := Appearance.isValue_maskImage? mask image shown
    exact .cons (by decide) value (allTame_singleton (by decide) value)
  · exact allTame_nil

end Emission

end SceneMarkup
