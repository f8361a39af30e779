import SceneMarkup.Numeric.Interchange
import SceneMarkup.Scene.Paint

/-!
# Where a gradient lies

A gradient is given by a map between its own space and the unit square of the node. Style values ask
for its angle, its center and its radii. These are computed in 64 bits and shown in 32.

* `linearAngle`, `conicAngle`: the angle that a gradient runs along, or begins at, in degrees;
* `center`, `radii`: in percent of the node; a map that cannot be undone leaves them in the middle.
-/

namespace SceneMarkup.Appearance

open Scene (Transform)

/-- The angle of a point, in radians. -/
def arcTangent (y x : Double) : Double :=
  .ofCode (Float.atan2 (.ofBits (.ofNat y.code)) (.ofBits (.ofNat x.code))).toBits.toNat

/-- Degrees in a radian. -/
def degreesPerRadian : Double := 57.29577951308232

/-- An angle in radians as degrees from the opposite direction, in one turn. -/
def turned (radians : Double) : Single := ((radians * degreesPerRadian + 180).wrap 360).convert

/-- The angle that a linear gradient runs along. -/
def linearAngle (t : Transform) : Single := turned (arcTangent t.a.convert (-t.c.convert))

/-- The angle that an angular gradient begins at. -/
def conicAngle (t : Transform) : Single := turned (arcTangent (-t.c.convert) t.a.convert)

/-- An affine map in 64 bits, by columns: `x` goes to `xx * x + yx * y + x0`. -/
structure Affine where
  xx : Double
  xy : Double
  yx : Double
  yy : Double
  x0 : Double
  y0 : Double

namespace Affine

/-- The map of a gradient in 64 bits. -/
def ofTransform (t : Transform) : Affine :=
  ⟨t.a.convert, t.c.convert, t.b.convert, t.d.convert, t.tx.convert, t.ty.convert⟩

def determinant (m : Affine) : Double := m.xx * m.yy - m.xy * m.yx

/-- The map that undoes another one. -/
def inverse (m : Affine) : Affine :=
  let scale := 1 / m.determinant
  ⟨scale * m.yy, -scale * m.xy, -scale * m.yx, scale * m.xx,
    scale * (m.yx * m.y0 - m.yy * m.x0), scale * (m.xy * m.x0 - m.xx * m.y0)⟩

/-- The image of a point. -/
def apply (m : Affine) (x y : Double) : Double × Double :=
  (m.xx * x + m.yx * y + m.x0, m.xy * x + m.yy * y + m.y0)

/-- A map whose determinant is so small that it cannot be undone. -/
def isSingular (m : Affine) : Bool := decide (m.determinant.abs < 1e-9)

end Affine

/-- The length of a vector. -/
def length (x y : Double) : Double := (x * x + y * y).sqrt

/-- A share of one as a percentage in 32 bits. -/
def toPercent (share : Double) : Single := (share * 100).convert

/-- The center of a gradient, in percent of the node. -/
def center (t : Transform) : Single × Single :=
  let m := Affine.ofTransform t
  if m.isSingular then (50, 50)
  else
    let (x, y) := m.inverse.apply 0.5 0.5
    (toPercent x, toPercent y)

/-- The radii of a gradient along both sides of the node, in percent. -/
def radii (t : Transform) : Single × Single :=
  let m := Affine.ofTransform t
  if m.isSingular then (50, 50)
  else
    let m := m.inverse
    (toPercent (length m.xx m.xy * 0.5), toPercent (length m.yx m.yy * 0.5))

end SceneMarkup.Appearance
