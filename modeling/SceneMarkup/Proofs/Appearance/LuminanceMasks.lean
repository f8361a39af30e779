import SceneMarkup.Appearance.Fill

/-!
# Masks that read luminance

A mask with a gradient fades what it covers: by the alpha of its stops, or by how bright they are.
The second changes the colors of the stops and leaves the course of the gradient alone, but for one
difference: a gradient whose radii are close is a circle that ends at the closest side of its box,
and such a mask draws it as an ellipse.

* `DrawsCircle`: the gradients that are circles;
* `courseOfEllipse_of_not_drawsCircle`: all others have one course in both masks;
* `gradientWith_ellipse_ne_circle`: an ellipse is not a circle with other colors;
* `maskImage?_of_gradient`: the image of a mask of either type;
* `luminance_mask_recolors_iff`: **a mask that reads luminance only changes colors if and only if
  its gradient is no circle.**
-/

namespace SceneMarkup.Appearance

open Scene (Gradient GradientShape GradientStop Layer Paint Transform)

variable {options : Options} {shape : GradientShape} {t : Transform}

/-- A gradient around a center whose radii are close. -/
def DrawsCircle (shape : GradientShape) (t : Transform) : Prop :=
  (shape = .radial ∨ shape = .diamond) ∧ isCircle t = true

theorem course_of_drawsCircle (circle : DrawsCircle shape t) :
    course shape t = circleCourse t ∧ courseOfEllipse shape t = ellipseCourse t := by
  obtain ⟨rfl | rfl, close⟩ := circle
  · exact ⟨if_pos close, rfl⟩
  · exact ⟨if_pos close, rfl⟩

theorem courseOfEllipse_of_not_drawsCircle (other : ¬ DrawsCircle shape t) :
    courseOfEllipse shape t = course shape t := by
  have apart : (shape = .radial ∨ shape = .diamond) → ¬ isCircle t = true :=
    fun around close => other ⟨around, close⟩
  cases shape with
  | linear => rfl
  | angular => rfl
  | radial => exact (if_neg (apart (.inl rfl))).symm
  | diamond => exact (if_neg (apart (.inr rfl))).symm

/-- An ellipse is not a circle with other colors, wherever both lie and whatever their stops are. -/
theorem gradientWith_ellipse_ne_circle (t t' : Transform) (stops stops' : List GradientStop)
    (color color' : GradientStop → String) :
    gradientWith (ellipseCourse t) stops color ≠ gradientWith (circleCourse t') stops' color' := by
  have apart : ∀ rest rest' : String, "radial-gradient(ellipse " ++ rest ≠
      "radial-gradient(circle closest-side at " ++ rest' := by
    intro rest rest' same
    have letters := congrArg String.toList same
    simp at letters
  intro same
  unfold gradientWith ellipseCourse circleCourse at same
  simp only [String.append_assoc] at same
  exact apart _ _ same

/-! ### Masks -/

variable {paint : Paint} {gradient : Gradient}

/-- The image of a mask of either type. -/
theorem maskImage?_of_gradient (options : Options) {mask : Layer}
    (primary : primaryFill? mask.fills = some paint)
    (isGradient : paint.source = .gradient shape gradient) :
    maskImage? options mask =
      some (if mask.maskType = .luminance then
          gradientWith (courseOfEllipse shape gradient.transform) gradient.stops
            (luminanceStop paint.opacity)
        else gradientValue options shape gradient paint.opacity) := by
  rw [maskImage?, primary]
  simp only [Option.bind_eq_bind, Option.bind_some, isGradient]
  split <;> rfl

/-- A mask in the two types: one shows the stops in their colors, the other as bright as they
are. -/
theorem maskImage?_alpha_luminance (options : Options) {mask : Layer}
    (primary : primaryFill? mask.fills = some paint)
    (isGradient : paint.source = .gradient shape gradient) :
    maskImage? options { mask with maskType := .alpha } =
        some (gradientWith (course shape gradient.transform) gradient.stops fun stop =>
          colorValue options stop.color paint.opacity) ∧
      maskImage? options { mask with maskType := .luminance } =
        some (gradientWith (courseOfEllipse shape gradient.transform) gradient.stops
          (luminanceStop paint.opacity)) := by
  have either : ∀ maskType, primaryFill? { mask with maskType }.fills = some paint :=
    fun _ => primary
  rw [maskImage?_of_gradient options (either .alpha) isGradient,
    maskImage?_of_gradient options (either .luminance) isGradient]
  exact ⟨rfl, rfl⟩

/-- **A mask that reads luminance only changes colors, unless its gradient is a circle.** Let the
first visible fill of a mask that is no image be a gradient. A mask that reads alpha shows it in the
colors of its stops. One that reads luminance shows the same text, in which black as opaque as the
stop is bright stands for the color of every stop, if and only if the gradient is no circle. A
circle is shown as an ellipse around the same center, which is that circle in no colors. -/
theorem luminance_mask_recolors_iff (options : Options) {mask : Layer}
    (primary : primaryFill? mask.fills = some paint)
    (isGradient : paint.source = .gradient shape gradient) :
    maskImage? options { mask with maskType := .alpha } =
        some (gradientWith (course shape gradient.transform) gradient.stops fun stop =>
          colorValue options stop.color paint.opacity) ∧
      (maskImage? options { mask with maskType := .luminance } =
          some (gradientWith (course shape gradient.transform) gradient.stops
            (luminanceStop paint.opacity)) ↔
        ¬ DrawsCircle shape gradient.transform) ∧
      (DrawsCircle shape gradient.transform →
        maskImage? options { mask with maskType := .luminance } =
            some (gradientWith (ellipseCourse gradient.transform) gradient.stops
              (luminanceStop paint.opacity)) ∧
          ∀ color, maskImage? options { mask with maskType := .luminance } ≠
            some (gradientWith (course shape gradient.transform) gradient.stops color)) := by
  obtain ⟨alpha, luminance⟩ := maskImage?_alpha_luminance options primary isGradient
  have circleDiffers : DrawsCircle shape gradient.transform → ∀ color,
      maskImage? options { mask with maskType := .luminance } ≠
        some (gradientWith (course shape gradient.transform) gradient.stops color) := by
    intro circle color same
    obtain ⟨round, ellipse⟩ := course_of_drawsCircle circle
    rw [luminance, round, ellipse] at same
    exact gradientWith_ellipse_ne_circle _ _ _ _ _ _ (Option.some.inj same)
  refine ⟨alpha, ⟨fun same circle => circleDiffers circle _ same, fun other => ?_⟩,
    fun circle => ?_⟩
  · rw [luminance, courseOfEllipse_of_not_drawsCircle other]
  · refine ⟨?_, circleDiffers circle⟩
    rw [luminance, (course_of_drawsCircle circle).2]

/-! ### Two masks -/

/-- Two stops, white and black. -/
def fadingStops : List GradientStop :=
  [⟨0, { red := 1, green := 1, blue := 1 }⟩, ⟨1, { red := 0, green := 0, blue := 0 }⟩]

/-- A gradient around a center, under some map. -/
def glowPaint (t : Transform) : Paint :=
  { source := .gradient .radial { stops := fadingStops, transform := t } }

/-- A box that the gradient fills. -/
def glow (t : Transform) : Layer :=
  { id := "13:1", kind := .rectangle, width := 40, height := 20, isMask := true,
    fills := [glowPaint t] }

theorem primaryFill?_glow (t : Transform) : primaryFill? (glow t).fills = some (glowPaint t) := rfl

/-- A gradient that is twice as wide as high is drawn alike in both masks. -/
theorem luminance_mask_recolors_wideGlow :
    primaryFill? (glow { a := 0.5 }).fills = some (glowPaint { a := 0.5 }) ∧
      ¬ DrawsCircle .radial { a := 0.5 } ∧
      maskImage? {} { glow { a := 0.5 } with maskType := .luminance } =
        some (gradientWith (course .radial { a := 0.5 }) fadingStops (luminanceStop 1)) := by
  have wide : ¬ DrawsCircle .radial { a := 0.5 } := by
    rintro ⟨-, close⟩
    exact absurd close (by decide +kernel)
  have recolors := (luminance_mask_recolors_iff {} (primaryFill?_glow { a := 0.5 }) rfl).2.1
  exact ⟨primaryFill?_glow _, wide, recolors.2 wide⟩

/-- A circle is drawn as an ellipse by the mask that reads luminance: its text is not that of the
mask that reads alpha with other colors. -/
theorem luminance_mask_of_glow_is_ellipse :
    maskImage? {} { glow {} with maskType := .alpha } =
        some (gradientWith (course .radial {}) fadingStops fun stop => colorValue {} stop.color 1) ∧
      maskImage? {} { glow {} with maskType := .luminance } ≠
        some (gradientWith (course .radial {}) fadingStops (luminanceStop 1)) := by
  have circle : DrawsCircle .radial {} := ⟨.inl rfl, by decide +kernel⟩
  obtain ⟨round, ellipse⟩ := course_of_drawsCircle circle
  obtain ⟨alpha, luminance⟩ := maskImage?_alpha_luminance {} (primaryFill?_glow {}) rfl
  refine ⟨alpha, fun same => ?_⟩
  have shapes : gradientWith (ellipseCourse {}) fadingStops (luminanceStop 1) =
      gradientWith (circleCourse {}) fadingStops (luminanceStop 1) := by
    rw [← round, ← ellipse]
    exact Option.some.inj (luminance.symm.trans same)
  exact gradientWith_ellipse_ne_circle _ _ _ _ _ _ shapes

end SceneMarkup.Appearance
