import SceneMarkup.Proofs.Appearance.GradientSize
import SceneMarkup.Proofs.Scene.Codec.Node

/-!
# Layers of moderate numbers

No number of a layer is beyond a bound, and its gradients can be followed.

* `PaintSource.IsModest`, `Paint.IsModest`: a gradient whose map is moderate and whose angle, if it
  has one, is in the range of arc tangents; and so a paint all of whose numbers are moderate;
* `Layer.IsModest`: a layer all of whose numbers are moderate, and so are the gradients that fill it
  or its letters;
* `IsModest.width` to `IsModest.corners`: what this says of each part of a layer.
-/

namespace SceneMarkup.Scene

open Appearance (courseAngle?)
open Binary (Within within_ofNat)

/-! ### Paints -/

/-- A gradient whose map is moderate, and whose angle, if it has one, is in the range of arc
tangents. What is no gradient is modest. -/
def PaintSource.IsModest : PaintSource → Prop
  | .gradient shape course =>
    (∀ x ∈ course.transform.numbers, Within 8 x) ∧ ∀ angle ∈ courseAngle? shape course.transform,
      Within 2 angle
  | .solid _ | .image => True

instance : DecidablePred PaintSource.IsModest
  | .gradient _ _ => inferInstanceAs (Decidable (_ ∧ _))
  | .solid _ | .image => inferInstanceAs (Decidable True)

/-- A paint whose numbers are moderate. -/
structure Paint.IsModest (paint : Paint) : Prop where
  numbers : ∀ x ∈ paint.numbers, Within 40 x
  source : paint.source.IsModest

namespace Paint.IsModest

variable {paint : Paint}

theorem opacity (modest : paint.IsModest) : Within 40 paint.opacity :=
  modest.numbers _ List.mem_cons_self

theorem inside (modest : paint.IsModest) : ∀ x ∈ paint.source.numbers, Within 40 x := fun x mem =>
  modest.numbers x (List.mem_cons_of_mem _ mem)

end Paint.IsModest

/-! ### Layers -/

/-- A layer all of whose numbers are moderate, and so are the gradients that fill it or its
letters. -/
structure Layer.IsModest (layer : Layer) : Prop where
  numbers : ∀ x ∈ layer.numbers, Within 40 x
  sources : ∀ paint ∈ layer.fills, paint.source.IsModest
  letters : ∀ text ∈ layer.text?, ∀ segment ∈ text.segments, ∀ paint ∈ segment.fills,
    paint.source.IsModest

instance : DecidablePred Layer.IsModest := fun layer =>
  decidable_of_iff ((∀ x ∈ layer.numbers, Within 40 x) ∧
    (∀ paint ∈ layer.fills, paint.source.IsModest) ∧
      ∀ text ∈ layer.text?, ∀ segment ∈ text.segments, ∀ paint ∈ segment.fills,
      paint.source.IsModest)
    ⟨fun ⟨numbers, sources, letters⟩ => ⟨numbers, sources, letters⟩,
      fun modest => ⟨modest.numbers, modest.sources, modest.letters⟩⟩

def CornerRadius.numbers : CornerRadius → List Single
  | .square => []
  | .uniform radius => [radius]
  | .each topLeft topRight bottomRight bottomLeft => [topLeft, topRight, bottomRight, bottomLeft]

theorem within_getD {k : Nat} {x? : Option Single} {x : Single}
    (given : ∀ x ∈ x?.toList, Within k x) (otherwise : Within k x) : Within k (x?.getD x) := by
  cases x? with
  | none => exact otherwise
  | some y => exact given y List.mem_cons_self

namespace Layer.IsModest

variable {layer : Layer} (modest : layer.IsModest)
include modest

theorem opacity : Within 40 layer.opacity := modest.numbers _ (by simp [Layer.numbers])

theorem rotation : Within 40 layer.rotation := modest.numbers _ (by simp [Layer.numbers])

theorem x : Within 40 layer.x := modest.numbers _ (by simp [Layer.numbers])

theorem y : Within 40 layer.y := modest.numbers _ (by simp [Layer.numbers])

theorem width : Within 40 layer.width := modest.numbers _ (by simp [Layer.numbers])

theorem height : Within 40 layer.height := modest.numbers _ (by simp [Layer.numbers])

theorem strokeWeight : Within 40 layer.strokeWeight := modest.numbers _ (by simp [Layer.numbers])

theorem kind : ∀ x ∈ layer.kind.numbers, Within 40 x := fun x mem =>
  modest.numbers x (by simp [Layer.numbers, mem])

theorem frame {frame : Frame} (isFrame : layer.frame? = some frame) :
    ∀ x ∈ frame.numbers, Within 40 x := by
  have inside := modest.kind
  unfold Layer.frame? at isFrame
  cases kind : layer.kind <;> rw [kind] at isFrame inside <;> cases isFrame
  exact inside

theorem text {text : TextStyle} (isText : layer.kind = .text text) :
    ∀ x ∈ text.numbers, Within 40 x := by
  have inside := modest.kind
  rwa [isText] at inside

theorem segments {text : TextStyle} (isText : layer.kind = .text text) :
    ∀ segment ∈ text.segments, ∀ paint ∈ segment.fills, paint.IsModest := by
  intro segment mem paint painted
  have given : layer.text? = some text := by rw [text?, isText]
  have numbers := (List.forall_mem_append.1 (modest.text isText)).2
  exact ⟨List.forall_mem_flatMap.1 (List.forall_mem_flatMap.1 numbers segment mem) paint painted,
    modest.letters text given segment mem paint painted⟩

theorem bounds : ∀ box ∈ layer.bounds, ∀ x ∈ box.numbers, Within 40 x := fun box known x mem =>
  modest.numbers x (by simp [Layer.numbers, Option.mem_def.1 known, mem])

theorem fills : ∀ paint ∈ layer.fills, paint.IsModest := fun paint mem =>
  ⟨fun x inside =>
    modest.numbers x (by simp only [Layer.numbers, List.mem_append, List.mem_flatMap]; grind),
    modest.sources paint mem⟩

theorem strokes : ∀ paint ∈ layer.strokes, ∀ x ∈ paint.numbers, Within 40 x :=
  fun paint mem x inside =>
    modest.numbers x (by simp only [Layer.numbers, List.mem_append, List.mem_flatMap]; grind)

theorem effects : ∀ effect ∈ layer.effects, ∀ x ∈ effect.numbers, Within 40 x :=
  fun effect mem x inside =>
    modest.numbers x (by simp only [Layer.numbers, List.mem_append, List.mem_flatMap]; grind)

theorem corners : ∀ x ∈ layer.corners.numbers, Within 40 x := by
  have numbers := modest.numbers
  simp only [Layer.numbers, List.forall_mem_append] at numbers
  obtain ⟨⟨⟨⟨⟨⟨⟨⟨-, common⟩, topLeft⟩, topRight⟩, bottomRight⟩, bottomLeft⟩, -⟩, -⟩, -⟩ := numbers
  have zero : Within 40 (0 : Single) := within_ofNat (by decide)
  replace common := within_getD common zero
  replace topLeft := within_getD topLeft common
  unfold Layer.corners
  dsimp only
  split
  · split
    · exact List.forall_mem_singleton.2 topLeft
    · exact fun _ mem => by cases mem
  · simp only [CornerRadius.numbers, List.forall_mem_cons]
    exact ⟨topLeft, within_getD topRight common, within_getD bottomRight common,
      within_getD bottomLeft common, fun _ mem => by cases mem⟩

/-- A modest layer can be placed. -/
theorem hasFiniteGeometry : layer.hasFiniteGeometry = true := by
  have box : layer.bounds.all Bounds.isFinite = true := by
    rw [Option.all_eq_true]
    intro box known
    have numbers := modest.bounds box known
    simp only [Bounds.numbers, List.forall_mem_cons] at numbers
    obtain ⟨x, y, width, height, -⟩ := numbers
    simp [Bounds.isFinite, x.1, y.1, width.1, height.1]
  simp [Layer.hasFiniteGeometry, box, modest.x.1, modest.y.1, modest.width.1, modest.height.1,
    modest.rotation.1, modest.opacity.1]

end Layer.IsModest

end SceneMarkup.Scene
