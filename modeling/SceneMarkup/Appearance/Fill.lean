import SceneMarkup.Appearance.Gradient
import SceneMarkup.Css.Declaration
import SceneMarkup.Scene.Node

/-!
# Fills

* `paintValue?`: the value of a paint, unless it is an image;
* `fillValue?`: the background that a list of fills gives;
* `textPaint`: the paint of a run of text, a gradient being clipped to the letters;
* `maskImage?`: the image of a mask whose fill is a gradient.
-/

namespace SceneMarkup.Appearance

open Scene (Layer Paint)
open Css (Declaration)

/-- The value of a paint; an image has none. -/
def paintValue? (options : Options) (paint : Paint) : Option String :=
  match paint.source with
  | .solid color => some (colorValue options color paint.opacity)
  | .gradient shape gradient => some (gradientValue options shape gradient paint.opacity)
  | .image => none

/-- The background of a list of fills: the first visible one that has a value. Where only images are
visible, the placeholder stands for them. -/
def fillValue? (options : Options) (fills : List Paint) : Option String :=
  let visible := fills.filter Paint.visible
  (visible.findSome? (paintValue? options)).or
    (if visible.any Paint.isImage then some options.placeholderColor else none)

/-- The first visible fill that is no image. -/
def primaryFill? (fills : List Paint) : Option Paint :=
  fills.find? fun paint => paint.visible && (paint.isSolid || paint.isGradient)

/-! ### Text -/

/-- The declarations of a gradient that is clipped to the letters. -/
def clippedToLetters (gradient : String) : List Declaration :=
  [⟨"background", gradient⟩, ⟨"-webkit-background-clip", "text"⟩, ⟨"background-clip", "text"⟩,
    ⟨"color", "transparent"⟩]

/-- The paint of a run of text. -/
def textPaint (options : Options) (fills : List Paint) : List Declaration :=
  match primaryFill? fills with
  | some paint =>
    match paint.source with
    | .solid color => [⟨"color", colorValue options color paint.opacity⟩]
    | .gradient shape gradient =>
      clippedToLetters (gradientValue options shape gradient paint.opacity)
    | .image => []
  | none =>
    if fills.any Paint.visible then [⟨"color", options.placeholderColor⟩] else []

/-! ### Masks -/

/-- The stop of a mask that reads luminance: black, as opaque as the stop is bright. -/
def luminanceStop (opacity : Single) (stop : Scene.GradientStop) : String :=
  shade ((stop.color.luminance * stop.color.alpha * opacity).clamp 0 1)

/-- The image of a mask, if its fill is a gradient. -/
def maskImage? (options : Options) (mask : Layer) : Option String := do
  let paint ← primaryFill? mask.fills
  match paint.source with
  | .gradient shape gradient =>
    if mask.maskType = .luminance then
      return gradientWith (courseOfEllipse shape gradient.transform) gradient.stops
        (luminanceStop paint.opacity)
    else return gradientValue options shape gradient paint.opacity
  | .solid _ | .image => none

end SceneMarkup.Appearance
