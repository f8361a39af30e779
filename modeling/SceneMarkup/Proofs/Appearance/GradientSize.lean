import SceneMarkup.Appearance.GradientGeometry
import SceneMarkup.Proofs.Numeric.Magnitude
import SceneMarkup.Proofs.Scene.Codec.Paint

/-!
# How large gradients are shown

A map of moderate numbers that can be undone is undone by a map of moderate numbers, since its
determinant is no less than a billionth. So the center and the radii of a gradient are moderate,
too.

* `courseAngle?`, `within_linearAngle`, `within_conicAngle`: an angle in degrees, if the one in
  radians is in the range of arc tangents;
* `Affine.IsSized`: a map whose numbers are bounded;
* `within_center`, `within_radii`: the center and the radii, in percent.
-/

namespace SceneMarkup.Appearance

open Binary (Within within_convert within_ofNat within_sqrt_add)
open Scene (GradientShape Transform)

/-! ### Angles -/

/-- The angle of a gradient that has one, in radians. -/
def courseAngle? (shape : GradientShape) (t : Transform) : Option Double :=
  match shape with
  | .linear => some (arcTangent t.a.convert (-t.c.convert))
  | .angular => some (arcTangent (-t.c.convert) t.a.convert)
  | .radial | .diamond => none

theorem within_turned {radians : Double} (small : Within 2 radians) :
    Within 10 (turned radians) := by
  have unit : Within 6 degreesPerRadian := by decide +kernel
  have half : Within 8 (180 : Double) := within_ofNat (by decide)
  have scaled : Within 8 (radians * degreesPerRadian) := small.mul unit (by decide)
  have sum : Within 9 (radians * degreesPerRadian + 180) := scaled.add half (by decide)
  have angle : Within 10 ((radians * degreesPerRadian + 180).wrap 360) :=
    sum.wrap (i := 9) (by decide) (by decide)
  exact within_convert angle (by decide)

variable {t : Transform}

theorem within_linearAngle (small : ∀ angle ∈ courseAngle? .linear t, Within 2 angle) :
    Within 10 (linearAngle t) :=
  within_turned (small _ rfl)

theorem within_conicAngle (small : ∀ angle ∈ courseAngle? .angular t, Within 2 angle) :
    Within 10 (conicAngle t) :=
  within_turned (small _ rfl)

/-! ### Maps -/

/-- A map whose numbers are bounded, and whose offset is. -/
structure Affine.IsSized (j k : Nat) (m : Affine) : Prop where
  xx : Within j m.xx
  xy : Within j m.xy
  yx : Within j m.yx
  yy : Within j m.yy
  x0 : Within k m.x0
  y0 : Within k m.y0

theorem isSized_ofTransform (small : ∀ x ∈ t.numbers, Within 8 x) :
    (Affine.ofTransform t).IsSized 8 8 := by
  simp only [Transform.numbers, List.forall_mem_cons] at small
  obtain ⟨a, b, tx, c, d, ty, -⟩ := small
  have wide : ∀ {x : Single}, Within 8 x → Within 8 (x.convert : Double) :=
    fun hx => within_convert hx (by decide)
  exact ⟨wide a, wide c, wide b, wide d, wide tx, wide ty⟩

namespace Affine

variable {m : Affine}

theorem IsSized.determinant (sized : m.IsSized 8 8) : Within 17 m.determinant := by
  have first : Within 16 (m.xx * m.yy) := sized.xx.mul sized.yy (by decide)
  have second : Within 16 (m.xy * m.yx) := sized.xy.mul sized.yx (by decide)
  exact first.sub second (by decide)

/-- What a determinant is divided into is bounded, if the map can be undone. -/
theorem IsSized.scale (sized : m.IsSized 8 8) (regular : m.isSingular = false) :
    Within 30 (1 / m.determinant) := by
  have one : Within 0 (1 : Double) := within_ofNat (by decide)
  exact one.div_of_not_lt sized.determinant.1 (of_decide_eq_false regular) (by decide +kernel)
    (by decide +kernel) (by decide)

theorem IsSized.inverse (sized : m.IsSized 8 8) (regular : m.isSingular = false) :
    m.inverse.IsSized 38 47 := by
  have scale := sized.scale regular
  have offset : ∀ {a b c d : Double}, Within 8 a → Within 8 b → Within 8 c → Within 8 d →
      Within 47 (1 / m.determinant * (a * b - c * d)) := by
    intro a b c d ha hb hc hd
    have first : Within 16 (a * b) := ha.mul hb (by decide)
    have second : Within 16 (c * d) := hc.mul hd (by decide)
    have difference : Within 17 (a * b - c * d) := first.sub second (by decide)
    exact scale.mul difference (by decide)
  have entry : ∀ {x y : Double}, Within 30 x → Within 8 y → Within 38 (x * y) :=
    fun hx hy => hx.mul hy (by decide)
  exact ⟨entry scale sized.yy, entry scale.neg sized.xy, entry scale.neg sized.yx,
    entry scale sized.xx, offset sized.yx sized.y0 sized.yy sized.x0,
    offset sized.xy sized.x0 sized.xx sized.y0⟩

end Affine

/-! ### Centers and radii -/

theorem within_toPercent {share : Double} (small : Within 48 share) :
    Within 57 (toPercent share) := by
  have hundred : Within 7 (100 : Double) := within_ofNat (by decide)
  have scaled : Within 57 (share * 100) := small.mul hundred (by decide)
  exact within_convert scaled (by decide)

theorem within_fifty : Within 57 (50 : Single) := within_ofNat (by decide)

theorem within_half : Within 0 (0.5 : Double) := by decide +kernel

/-- The center of a gradient whose map has moderate numbers. -/
theorem within_center (small : ∀ x ∈ t.numbers, Within 8 x) :
    Within 57 (center t).1 ∧ Within 57 (center t).2 := by
  unfold center
  dsimp only
  split
  · exact ⟨within_fifty, within_fifty⟩
  · next regular =>
    have sized := (isSized_ofTransform small).inverse (Bool.eq_false_iff.2 regular)
    have image : ∀ {a b c : Double}, Within 38 a → Within 38 b → Within 47 c →
        Within 57 (toPercent (a * 0.5 + b * 0.5 + c)) := by
      intro a b c ha hb hc
      have first : Within 38 (a * 0.5) := ha.mul within_half (by decide)
      have second : Within 38 (b * 0.5) := hb.mul within_half (by decide)
      have linear : Within 47 (a * 0.5 + b * 0.5) := first.add second (by decide)
      exact within_toPercent (linear.add hc (by decide))
    simp only [Affine.apply]
    exact ⟨image sized.xx sized.yx sized.x0, image sized.xy sized.yy sized.y0⟩

/-- The radii of a gradient whose map has moderate numbers. -/
theorem within_radii (small : ∀ x ∈ t.numbers, Within 8 x) :
    Within 57 (radii t).1 ∧ Within 57 (radii t).2 := by
  unfold radii
  dsimp only
  split
  · exact ⟨within_fifty, within_fifty⟩
  · next regular =>
    have sized := (isSized_ofTransform small).inverse (Bool.eq_false_iff.2 regular)
    have radius : ∀ {x y : Double}, Within 38 x → Within 38 y →
        Within 57 (toPercent (length x y * 0.5)) := by
      intro x y hx hy
      have long : Within 48 (length x y) := within_sqrt_add hx hy (by decide)
      exact within_toPercent (long.mul within_half (by decide))
    dsimp only
    exact ⟨radius sized.xx sized.xy, radius sized.yx sized.yy⟩

end SceneMarkup.Appearance
