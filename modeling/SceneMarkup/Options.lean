import SceneMarkup.Numeric.Arithmetic
import SceneMarkup.Text.Pieces
import SceneMarkup.Unicode.LowerCase

/-!
# Options of a conversion

* `Dialect`: the two markup dialects;
* `Options`: what a caller may choose, with the defaults;
* `Options.isOpaque`, `Options.isIconFont`: what counts as opaque, and as an icon font.
-/

namespace SceneMarkup

/-- The markup dialect: a whole page, or a component module with JSX. -/
inductive Dialect where
  | html
  | jsx
  deriving DecidableEq, Repr

/-- What a caller may choose. -/
structure Options where
  dialect : Dialect := .html
  /-- A rotation by fewer degrees is none. -/
  rotationTolerance : Single := 0.01
  /-- An alpha that is nearer to one is opaque. -/
  opacityTolerance : Single := 0.005
  /-- Stands for images, and for pictures that cannot be had. -/
  placeholderColor : String := "#D9D9D9"
  /-- Refuse a root without auto layout. -/
  requireAutoLayout : Bool := false
  /-- Request the fonts in use from the web. -/
  includeFonts : Bool := true
  /-- Marks of icon fonts, which are never requested; case does not count. -/
  iconFontPatterns : List String := ["icon", "material symbols", "font awesome"]
  stylesheetName : String := "styles.css"
  /-- The title of the page, in place of the name of the root. -/
  title : Option String := none

namespace Options

/-- An alpha that shows as opaque. -/
def isOpaque (options : Options) (alpha : Single) : Bool :=
  decide ((1 - alpha).abs < options.opacityTolerance)

/-- A font family that one of the patterns marks as an icon font. -/
def isIconFont (options : Options) (family : String) : Bool :=
  let family := Unicode.lowerCase family.toList
  options.iconFontPatterns.any fun pattern =>
    Text.occurs (Unicode.lowerCase pattern.toList) family

end Options

end SceneMarkup
