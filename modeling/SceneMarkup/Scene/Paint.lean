import SceneMarkup.Scene.Color

/-!
# Paints

* `Paint`: what a layer of fill or stroke draws, and whether and how strongly it shows;
* `Gradient`: stops, and the map from gradient space to the unit square of the node.
-/

namespace SceneMarkup.Scene

/-- A color at a position from zero to one. -/
structure GradientStop where
  position : Single
  color : Color
  deriving DecidableEq

/-- An affine map of the plane, by rows: `x` goes to `a * x + b * y + tx`. -/
structure Transform where
  a : Single := 1
  b : Single := 0
  tx : Single := 0
  c : Single := 0
  d : Single := 1
  ty : Single := 0
  deriving DecidableEq

/-- The stops of a gradient and where it lies. -/
structure Gradient where
  stops : List GradientStop := []
  transform : Transform := {}
  deriving DecidableEq

/-- The course of a gradient. -/
inductive GradientShape where
  | linear
  | radial
  | angular
  | diamond
  deriving DecidableEq, Repr

/-- What a paint draws. An image is only signalled, never shown. -/
inductive PaintSource where
  | solid (color : Color)
  | gradient (shape : GradientShape) (gradient : Gradient)
  | image
  deriving DecidableEq

/-- One layer of fill or stroke. -/
structure Paint where
  source : PaintSource
  visible : Bool := true
  opacity : Single := 1
  deriving DecidableEq

namespace Paint

/-- An opaque layer of one color. -/
def solid (color : Color) : Paint := { source := .solid color }

def isSolid (paint : Paint) : Bool :=
  match paint.source with
  | .solid _ => true
  | _ => false

def isGradient (paint : Paint) : Bool :=
  match paint.source with
  | .gradient .. => true
  | _ => false

def isImage (paint : Paint) : Bool :=
  match paint.source with
  | .image => true
  | _ => false

end Paint

/-- On which side of its edge a stroke lies. -/
inductive StrokeAlign where
  | inside
  | outside
  | center
  deriving DecidableEq, Repr

end SceneMarkup.Scene
