import SceneMarkup.Numeric.Hundredths
import SceneMarkup.Options
import SceneMarkup.Scene.Color

/-!
# Color values

* `effectiveAlpha`: the alpha of a color under an opacity, within bounds;
* `colorValue`: hexadecimal digits for an opaque color, else its channels and alpha;
* `shade`: black with an alpha.
-/

namespace SceneMarkup.Appearance

open Scene (Color)

/-- The alpha of a color under an opacity. -/
def effectiveAlpha (color : Color) (opacity : Single) : Single := (color.alpha * opacity).clamp 0 1

/-- The value of a color under an opacity. -/
def colorValue (options : Options) (color : Color) (opacity : Single) : String :=
  let alpha := effectiveAlpha color opacity
  if options.isOpaque alpha then color.hex
  else "rgba(" ++ ", ".intercalate (color.bytes.map toString) ++ ", " ++ alpha.fixed ++ ")"

/-- Black with an alpha. -/
def shade (alpha : Single) : String := "rgba(0, 0, 0, " ++ alpha.fixed ++ ")"

end SceneMarkup.Appearance
