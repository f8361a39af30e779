import SceneMarkup.Proofs.Appearance.LuminanceMasks

/-!
# One paint for boxes, texts and masks

A box, a run of letters and a mask each search a list of fills for the paint that they show. They
find the same: the first visible fill that is no image, and where only images are visible, the color
that stands for them.

* `Leads`: a fill is the first visible one that is no image;
* `primaryFill?_eq_some_iff`: the primary fill is the one that leads;
* `fillValue?_of_primary`, `fillValue?_of_images`: a box shows the value of the primary fill, or
  what stands for images;
* `textPaint_of_primary`, `maskImage?_of_primary`: so do letters, and masks that read alpha if it is
  a gradient;
* `fills_agree`: boxes, letters and masks that read alpha show one paint.
-/

namespace SceneMarkup.Appearance

open Css (Declaration)
open Scene (Gradient GradientShape Layer Paint)

variable {options : Options} {fills : List Paint} {paint : Paint}

/-- A fill is the first visible one that is no image. -/
def Leads (fills : List Paint) (paint : Paint) : Prop :=
  ∃ before after, fills = before ++ paint :: after ∧ paint.visible = true ∧ paint.isImage = false ∧
    ∀ other ∈ before, other.visible = true → other.isImage = true

/-! ### Searches -/

theorem not_isImage (paint : Paint) : (!paint.isImage) = (paint.isSolid || paint.isGradient) := by
  unfold Paint.isImage Paint.isSolid Paint.isGradient
  cases paint.source <;> rfl

/-- Paints have a value but for images. -/
theorem isSome_paintValue? (options : Options) (paint : Paint) :
    (paintValue? options paint).isSome = !paint.isImage := by
  unfold paintValue? Paint.isImage
  cases paint.source <;> rfl

/-- The primary fill is the one that leads. -/
theorem primaryFill?_eq_some_iff : primaryFill? fills = some paint ↔ Leads fills paint := by
  simp only [primaryFill?, ← not_isImage, List.find?_eq_some_iff_append, Leads, Bool.and_eq_true,
    Bool.not_eq_true', Bool.not_and, Bool.not_not, Bool.or_eq_true]
  constructor
  · rintro ⟨⟨visible, shows⟩, before, after, whole, others⟩
    exact ⟨before, after, whole, visible, shows, fun other mem seen =>
      (others other mem).resolve_left (by simp [seen])⟩
  · rintro ⟨before, after, whole, visible, shows, others⟩
    refine ⟨⟨visible, shows⟩, before, after, whole, fun other mem => ?_⟩
    cases seen : other.visible with
    | false => exact .inl rfl
    | true => exact .inr (others other mem seen)

/-- There is no primary fill where only images are visible. -/
theorem primaryFill?_eq_none_iff :
    primaryFill? fills = none ↔ ∀ paint ∈ fills, paint.visible = true → paint.isImage = true := by
  simp only [primaryFill?, ← not_isImage, List.find?_eq_none, Bool.and_eq_true, Bool.not_eq_true',
    not_and, Bool.not_eq_false]

/-- The first visible value is the value of the primary fill. -/
theorem findSome?_paintValue? (options : Options) (fills : List Paint) :
    (fills.filter Paint.visible).findSome? (paintValue? options) =
      (primaryFill? fills).bind (paintValue? options) := by
  induction fills with
  | nil => rfl
  | cons paint rest ih =>
    have value := isSome_paintValue? options paint
    rw [primaryFill?, List.find?_cons, ← primaryFill?, ← not_isImage, ← value, List.filter_cons]
    cases paint.visible with
    | false => exact ih
    | true =>
      cases shown : paintValue? options paint with
      | none => simpa [shown] using ih
      | some text => simp [shown]

/-- What is visible is an image where no fill leads. -/
theorem any_isImage_visible
    (images : ∀ paint ∈ fills, paint.visible = true → paint.isImage = true) :
    (fills.filter Paint.visible).any Paint.isImage = fills.any Paint.visible := by
  rw [Bool.eq_iff_iff, List.any_eq_true, List.any_eq_true]
  constructor
  · rintro ⟨paint, mem, -⟩
    exact ⟨paint, List.mem_filter.1 mem⟩
  · rintro ⟨paint, mem, visible⟩
    exact ⟨paint, List.mem_filter.2 ⟨mem, visible⟩, images paint mem visible⟩

theorem fillValue?_of_primary (options : Options) (primary : primaryFill? fills = some paint) :
    ∃ value, paintValue? options paint = some value ∧ fillValue? options fills = some value := by
  obtain ⟨-, -, -, -, shows, -⟩ := primaryFill?_eq_some_iff.1 primary
  have hasValue : (paintValue? options paint).isSome = true := by
    rw [isSome_paintValue?, shows]; rfl
  obtain ⟨value, painted⟩ := Option.isSome_iff_exists.1 hasValue
  refine ⟨value, painted, ?_⟩
  rw [fillValue?, findSome?_paintValue?, primary, Option.bind_some, painted, Option.some_or]

/-- Where only images are visible, a color stands for them. -/
theorem fillValue?_of_images (options : Options) (noneLeads : primaryFill? fills = none) :
    fillValue? options fills =
      if fills.any Paint.visible then some options.placeholderColor else none := by
  rw [fillValue?, findSome?_paintValue?, noneLeads, Option.bind_none, Option.none_or,
    any_isImage_visible (primaryFill?_eq_none_iff.1 noneLeads)]

/-! ### Letters and masks -/

/-- Letters show the value of the primary fill, a gradient being clipped to them. -/
theorem textPaint_of_primary (primary : primaryFill? fills = some paint) {value : String}
    (painted : paintValue? options paint = some value) :
    textPaint options fills =
      if paint.isGradient then clippedToLetters value else [⟨"color", value⟩] := by
  rw [textPaint, primary]
  obtain ⟨source, visible, opacity⟩ := paint
  cases source with
  | solid color =>
    obtain rfl := Option.some.inj painted
    rfl
  | gradient shape gradient =>
    obtain rfl := Option.some.inj painted
    rfl
  | image => cases painted

theorem textPaint_of_images (options : Options) (noneLeads : primaryFill? fills = none) :
    textPaint options fills =
      if fills.any Paint.visible then [⟨"color", options.placeholderColor⟩] else [] := by
  rw [textPaint, noneLeads]

/-- A mask that reads alpha shows the value of the primary fill if that is a gradient. -/
theorem maskImage?_of_primary {mask : Layer} (primary : primaryFill? mask.fills = some paint)
    (alpha : mask.maskType = .alpha) :
    maskImage? options mask = if paint.isGradient then paintValue? options paint else none := by
  obtain ⟨source, visible, opacity⟩ := paint
  cases source with
  | gradient shape gradient =>
    rw [maskImage?_of_gradient options primary rfl, alpha]
    rfl
  | solid color =>
    rw [maskImage?, primary]
    rfl
  | image =>
    rw [maskImage?, primary]
    rfl

theorem maskImage?_of_images {mask : Layer} (noneLeads : primaryFill? mask.fills = none) :
    maskImage? options mask = none := by
  rw [maskImage?, noneLeads]
  rfl

/-- The first visible fill that is no image is a gradient. -/
def LeadsWithGradient (fills : List Paint) : Prop :=
  ∃ paint, Leads fills paint ∧ paint.isGradient = true

theorem leadsWithGradient_iff (primary : primaryFill? fills = some paint) :
    LeadsWithGradient fills ↔ paint.isGradient = true := by
  constructor
  · rintro ⟨other, leads, gradient⟩
    obtain rfl := Option.some.inj (primary.symm.trans (primaryFill?_eq_some_iff.2 leads))
    exact gradient
  · exact fun gradient => ⟨paint, primaryFill?_eq_some_iff.1 primary, gradient⟩

theorem not_leadsWithGradient (noneLeads : primaryFill? fills = none) :
    ¬ LeadsWithGradient fills := by
  rintro ⟨paint, leads, -⟩
  rw [primaryFill?_eq_some_iff.2 leads] at noneLeads
  cases noneLeads

/-- **Boxes, letters and masks agree on the paint**, whatever fills there are and in whatever order.
Letters have no paint exactly where a box has none. Otherwise they have the value that a box has: as
their background, clipped to them with nothing over it, if the first visible fill that is no image
is a gradient, and else as their color, with nothing more. A mask that reads alpha has that value in
the first case, and none in the second. -/
theorem fills_agree (options : Options) (fills : List Paint) (mask : Layer) :
    (textPaint options fills = [] ↔ fillValue? options fills = none) ∧
      (∀ value, fillValue? options fills = some value →
        (LeadsWithGradient fills → textPaint options fills =
          [⟨"background", value⟩, ⟨"-webkit-background-clip", "text"⟩, ⟨"background-clip", "text"⟩,
            ⟨"color", "transparent"⟩]) ∧
        (¬ LeadsWithGradient fills → textPaint options fills = [⟨"color", value⟩])) ∧
      (LeadsWithGradient fills → (fillValue? options fills).isSome = true ∧
        maskImage? options { mask with fills := fills, maskType := .alpha } =
          fillValue? options fills) ∧
      (¬ LeadsWithGradient fills →
        maskImage? options { mask with fills := fills, maskType := .alpha } = none) := by
  cases primary : primaryFill? fills with
  | some paint =>
    obtain ⟨value, painted, filled⟩ := fillValue?_of_primary options primary
    have masked : maskImage? options { mask with fills := fills, maskType := .alpha } =
        if paint.isGradient then paintValue? options paint else none :=
          maskImage?_of_primary primary rfl
    rw [leadsWithGradient_iff primary, filled, textPaint_of_primary primary painted, masked,
      painted]
    cases paint.isGradient <;> simp [clippedToLetters]
  | none =>
    have other := not_leadsWithGradient primary
    have unmasked : maskImage? options { mask with fills := fills, maskType := .alpha } = none :=
      maskImage?_of_images primary
    rw [fillValue?_of_images options primary, textPaint_of_images options primary, unmasked]
    cases fills.any Paint.visible <;> simp [other]

def whitePaint : Paint := Paint.solid { red := 1, green := 1, blue := 1 }

/-- Four fills, of which the third is the first that is visible and no image. -/
def mixedFills : List Paint :=
  [{ whitePaint with visible := false }, { source := .image }, glowPaint {}, whitePaint]

/-- The gradient behind a hidden fill and an image is what a box, letters and a mask show. -/
theorem fills_agree_mixedFills :
    LeadsWithGradient mixedFills ∧
      fillValue? {} mixedFills = some (gradientValue {} .radial { stops := fadingStops } 1) ∧
      (textPaint {} mixedFills).head? =
        some ⟨"background", gradientValue {} .radial { stops := fadingStops } 1⟩ ∧
      maskImage? {} { glow {} with fills := mixedFills, maskType := .alpha } =
        some (gradientValue {} .radial { stops := fadingStops } 1) := by
  have leads : LeadsWithGradient mixedFills :=
    ⟨glowPaint {}, primaryFill?_eq_some_iff.1 rfl, rfl⟩
  have filled : fillValue? {} mixedFills =
      some (gradientValue {} .radial { stops := fadingStops } 1) := rfl
  obtain ⟨-, letters, masks, -⟩ := fills_agree {} mixedFills (glow {})
  refine ⟨leads, filled, ?_, (masks leads).2.trans filled⟩
  rw [(letters _ filled).1 leads]
  rfl

end SceneMarkup.Appearance
