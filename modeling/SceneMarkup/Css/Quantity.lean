import SceneMarkup.Numeric.Hundredths

/-!
# Quantities with a unit

Numbers in style values have at most two places.

* `px`, `percent`, `degrees`: a number with its unit.
-/

namespace SceneMarkup.Css

/-- A length in pixels. -/
def px (length : Single) : String := length.compact ++ "px"

/-- A percentage. -/
def percent (share : Single) : String := share.compact ++ "%"

/-- An angle. -/
def degrees (angle : Single) : String := angle.compact ++ "deg"

end SceneMarkup.Css
