import SceneMarkup.Proofs.Css.RealNumbers
import SceneMarkup.Proofs.Emission.Properties
import SceneMarkup.Proofs.Scene.Modest

/-!
# Places of real numbers

What places a modest layer in a modest container is written with real numbers, but for the stacking
order.

* `Container.IsModest`: a container whose numbers are moderate, as those of modest layers are;
* `within_offset`, `within_inset`: how far a layer lies from the corner of its container, and how
  much its box in the document is larger;
* `allShowReals_place`, `allShowReals_rotatedSlot`, `allReal_rotatedInner`, `allShowReals_maskSlot`:
  what places a layer, a rotated picture, and the box of a mask.
-/

namespace SceneMarkup.Position

open Binary (Within within_ofNat)
open Css (AllReal AllShowReals allReal_append allReal_ite allReal_nil allReal_singleton
  allShowReals_append allShowReals_singleton isReal_degrees isReal_px)
open Scene (Axis Bounds Constraint Layer)

/-! ### Containers -/

/-- A container whose numbers are moderate. -/
structure Container.IsModest (container : Container) : Prop where
  width : Within 40 container.width
  height : Within 40 container.height
  originX : Within 40 container.originX
  originY : Within 40 container.originY
  bounds : ∀ box ∈ container.bounds, ∀ x ∈ box.numbers, Within 40 x

section Layers

variable {layer : Layer} {container : Container} (modest : layer.IsModest)
include modest

theorem isModest_ofMask : (Container.ofMask layer).IsModest :=
  ⟨modest.width, modest.height, modest.x, modest.y, modest.bounds⟩

theorem isModest_of_ofLayer? (isContainer : Container.ofLayer? layer = some container) :
    container.IsModest := by
  have zero : Within 40 (0 : Single) := within_ofNat (by decide)
  unfold Container.ofLayer? at isContainer
  cases kind : layer.kind <;> rw [kind] at isContainer <;> cases isContainer
  case frame => exact ⟨modest.width, modest.height, zero, zero, modest.bounds⟩
  case group => exact ⟨modest.width, modest.height, modest.x, modest.y, modest.bounds⟩

/-! ### Offsets -/

theorem within_offset (options : Options) (inside : container.IsModest) :
    Within 41 (offset options layer container).1 ∧
      Within 41 (offset options layer container).2 := by
  have byOrigin : Within 41 (layer.x - container.originX) ∧
      Within 41 (layer.y - container.originY) :=
    ⟨modest.x.sub inside.originX (by decide), modest.y.sub inside.originY (by decide)⟩
  unfold offset
  dsimp only
  split
  · split
    · next own outer known knownOuter =>
      have numbers := modest.bounds own known
      have around := inside.bounds outer knownOuter
      simp only [Bounds.numbers, List.forall_mem_cons] at numbers around
      exact ⟨numbers.1.sub around.1 (by decide), numbers.2.1.sub around.2.1 (by decide)⟩
    · exact byOrigin
  · exact byOrigin

theorem within_inset : Within 41 (rotationInset layer).1 ∧ Within 41 (rotationInset layer).2 := by
  unfold rotationInset
  split
  · next bounds known =>
    have numbers := modest.bounds bounds known
    simp only [Bounds.numbers, List.forall_mem_cons] at numbers
    have width : Within 41 (bounds.width - layer.width) :=
      numbers.2.2.1.sub modest.width (by decide)
    have height : Within 41 (bounds.height - layer.height) :=
      numbers.2.2.2.1.sub modest.height (by decide)
    exact ⟨width.halved (by decide), height.halved (by decide)⟩
  · have zero : Within 41 (0 : Single) := within_ofNat (by decide)
    exact ⟨zero, zero⟩

end Layers

/-! ### Anchors -/

section Anchors

variable {offset size extent : Single} (near : Within 42 offset) (own : Within 40 size)
  (around : Within 40 extent)
include near own around

/-- What is left behind the far edge. -/
theorem within_rest : Within 44 (extent - (offset + size)) := by
  have far : Within 43 (offset + size) := near.add own (by decide)
  exact around.sub far (by decide)

/-- How far the middle of a node lies from that of its container. -/
theorem within_residual : Within 44 (offset + size / 2 - extent / 2) := by
  have middle : Within 43 (offset + size / 2) := near.add (own.halved (by decide)) (by decide)
  exact middle.sub (around.halved (by decide)) (by decide)

theorem allReal_anchor (axis : Axis) (constraint : Constraint) :
    AllReal (anchor axis constraint offset size extent).declarations := by
  have first : IsReal (Css.px offset) := isReal_px near (by decide)
  have second : IsReal (Css.px (extent - (offset + size))) :=
    isReal_px (within_rest near own around) (by decide)
  cases constraint with
  | min => exact allReal_singleton first
  | max => exact allReal_singleton second
  | stretch => exact .cons first (allReal_singleton second)
  | center => exact allReal_singleton (by decide)

theorem isReal_shift (axis : Axis) (constraint : Constraint) :
    ∀ shift ∈ (anchor axis constraint offset size extent).shift, IsReal shift := by
  intro shift mem
  cases constraint with
  | min => cases mem
  | max => cases mem
  | stretch => cases mem
  | center =>
    obtain rfl := Option.some.inj mem
    have marks : IsMark ((edges axis).2.2 ++ "(-50%)") ∧
        IsMark (" " ++ (edges axis).2.2 ++ "(") := by
      cases axis <;> decide
    refine marks.1.append ?_
    split
    · decide
    · have residual := isReal_px (within_residual near own around) (by decide)
      exact (marks.2.append residual).append_mark (by decide)

end Anchors

/-! ### Places -/

section Places

variable {options : Options} {layer : Layer} {container : Container} (modest : layer.IsModest)
include modest

theorem isReal_rotation : IsReal (rotation layer) :=
  (IsMark.append (by decide) (isReal_degrees modest.rotation.neg (by decide))).append_mark
    (by decide)

theorem allReal_rotatedOuter : AllReal (rotatedOuter layer) :=
  .cons (isReal_px modest.width (by decide))
    (allReal_singleton (isReal_px modest.height (by decide)))

theorem allReal_rotatedInner : AllReal (rotatedInner layer) := by
  have width := isReal_px modest.width (by decide)
  have height := isReal_px modest.height (by decide)
  have shift : IsMark "translate(-50%, -50%) " := by decide
  exact .cons (by decide) (.cons (by decide) (.cons (by decide)
    (.cons width (.cons height (allReal_singleton (shift.append (isReal_rotation modest)))))))

/-- What moves a layer is real, but for the stacking order. -/
theorem allShowReals_shifts {anchors : List Anchor}
    (each : ∀ anchor ∈ anchors, ∀ shift ∈ anchor.shift, IsReal shift) (order : Int)
    (rotated : Bool) :
    AllShowReals (shifts layer anchors order rotated) := by
  have transforms :
      ∀ text ∈ anchors.filterMap Anchor.shift ++ (if rotated then [rotation layer] else []),
      IsReal text := by
    refine List.forall_mem_append.2 ⟨fun text mem => ?_, fun text mem => ?_⟩
    · obtain ⟨anchor, here, isShift⟩ := List.mem_filterMap.1 mem
      exact each anchor here text isShift
    · split at mem
      · rw [List.mem_singleton.1 mem]
        exact isReal_rotation modest
      · cases mem
  refine allShowReals_append.2 ⟨(allReal_append.2 ⟨?_, ?_⟩).shows,
    allShowReals_singleton.2 (.order order)⟩
  · exact allReal_ite (by decide) allReal_nil
  · exact allReal_ite allReal_nil (allReal_singleton (isReal_intercalate (by decide) transforms))

variable (inside : container.IsModest)
include inside

theorem allShowReals_placeAt {offset : Single × Single}
    (near : Within 42 offset.1 ∧ Within 42 offset.2) (order : Int) (rotated : Bool) :
    AllShowReals (placeAt layer container offset order rotated) := by
  cases flow : container.hasInFlow layer with
  | true =>
    rw [placeAt_of_hasInFlow flow]
    exact allShowReals_shifts modest (fun _ mem => by cases mem) order rotated
  | false =>
    have horizontal :=
      allReal_anchor near.1 modest.width inside.width .horizontal layer.constraints.horizontal
    have vertical :=
      allReal_anchor near.2 modest.height inside.height .vertical layer.constraints.vertical
    have absolute : AllReal [⟨"position", "absolute"⟩] := by decide
    rw [placeAt_of_not_hasInFlow flow]
    refine allShowReals_append.2 ⟨absolute.shows, allShowReals_append.2 ⟨horizontal.shows,
      allShowReals_append.2 ⟨vertical.shows, allShowReals_shifts modest ?_ order rotated⟩⟩⟩
    simp only [List.forall_mem_cons]
    exact ⟨isReal_shift near.1 modest.width inside.width _ _,
      isReal_shift near.2 modest.height inside.height _ _, fun _ mem => by cases mem⟩

theorem allShowReals_place (order : Int) : AllShowReals (place options layer container order) := by
  have corner := within_offset modest options inside
  exact allShowReals_placeAt modest inside ⟨corner.1.mono (by decide),
    corner.2.mono (by decide)⟩ order _

theorem allShowReals_rotatedSlot (order : Int) :
    AllShowReals (rotatedSlot options layer container order) := by
  have corner := within_offset modest options inside
  have inset := within_inset modest
  have margin : AllReal (insetMargin (rotationInset layer)) :=
    allReal_ite allReal_nil (allReal_singleton
      ((isReal_px inset.2 (by decide)).join (by decide) (isReal_px inset.1 (by decide))))
  refine allShowReals_append.2 ⟨(allReal_ite margin allReal_nil).shows, ?_⟩
  exact allShowReals_placeAt modest inside ⟨corner.1.add inset.1 (by decide),
    corner.2.add inset.2 (by decide)⟩ order false

theorem allShowReals_maskSlot (order : Int) :
    AllShowReals (maskSlot options layer container order) := by
  have corner := within_offset modest options inside
  have box : AllReal [⟨"position", "absolute"⟩, ⟨"left", Css.px (offset options layer container).1⟩,
      ⟨"top", Css.px (offset options layer container).2⟩, ⟨"width", Css.px layer.width⟩,
      ⟨"height", Css.px layer.height⟩, ⟨"overflow", "hidden"⟩] :=
    .cons (by decide) (.cons (isReal_px corner.1 (by decide))
      (.cons (isReal_px corner.2 (by decide)) (.cons (isReal_px modest.width (by decide))
        (.cons (isReal_px modest.height (by decide)) (by decide)))))
  exact allShowReals_append.2 ⟨box.shows, allShowReals_singleton.2 (.order order)⟩

end Places

end SceneMarkup.Position
