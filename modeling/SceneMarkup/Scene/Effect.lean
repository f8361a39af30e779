import SceneMarkup.Scene.Color

/-!
# Effects, blending and masks

* `Effect`: a shadow or a blur, and whether it shows;
* `BlendMode`, `MaskType`: how a node mixes with what lies below, and how a mask reads its fill.
-/

namespace SceneMarkup.Scene

/-- A shadow: its color, how far it is moved, and how it is softened and grown. -/
structure Shadow where
  color : Color
  offsetX : Single := 0
  offsetY : Single := 0
  radius : Single := 0
  spread : Single := 0
  deriving DecidableEq

/-- What an effect does. -/
inductive EffectKind where
  | dropShadow (shadow : Shadow)
  | innerShadow (shadow : Shadow)
  | layerBlur (radius : Single)
  | backgroundBlur (radius : Single)
  deriving DecidableEq

/-- An effect of a node. -/
structure Effect where
  kind : EffectKind
  visible : Bool := true
  deriving DecidableEq

/-- How a node mixes with what lies below it. -/
inductive BlendMode where
  | passThrough
  | normal
  | darken
  | multiply
  | linearBurn
  | colorBurn
  | lighten
  | screen
  | linearDodge
  | colorDodge
  | overlay
  | softLight
  | hardLight
  | difference
  | exclusion
  | hue
  | saturation
  | color
  | luminosity
  deriving DecidableEq, Repr

/-- What of its fill a mask reads. -/
inductive MaskType where
  | alpha
  | vector
  | luminance
  deriving DecidableEq, Repr

end SceneMarkup.Scene
