import SceneMarkup.Css.Declaration
import SceneMarkup.Css.Quantity
import SceneMarkup.Layout.Utility
import SceneMarkup.Position.Container

/-!
# Anchoring

* `Anchor`, `anchor`: what a constraint makes of one axis: the edges that are given, and a shift;
* `placeAt`: what places a node at an offset in a container;
* `place`: what places a node where it lies;
* `rotatedSlot`, `rotatedInner`: the box that keeps the size of a rotated picture, and the rotated
  box in its middle;
* `maskSlot`: the box that stands for a mask.
-/

namespace SceneMarkup.Position

open Scene (Axis Constraint Layer)
open Css (Declaration degrees px)

/-- The edges that are given along an axis, and a shift of the node. -/
structure Anchor where
  declarations : List Declaration
  shift : Option String
  deriving DecidableEq, Repr

/-- The properties of the near and the far edge of an axis, and the function of a shift along it. -/
def edges : Axis → String × String × String
  | .horizontal => ("left", "right", "translateX")
  | .vertical => ("top", "bottom", "translateY")

/-- What a constraint makes of a node of some size at an offset in a container of some extent. -/
def anchor (axis : Axis) (constraint : Constraint) (offset size extent : Single) : Anchor :=
  let (near, far, shift) := edges axis
  let rest := extent - (offset + size)
  match constraint with
  | .min => ⟨[⟨near, px offset⟩], none⟩
  | .max => ⟨[⟨far, px rest⟩], none⟩
  | .stretch => ⟨[⟨near, px offset⟩, ⟨far, px rest⟩], none⟩
  | .center =>
    let residual := offset + size / 2 - extent / 2
    let remaining :=
      if Layout.roundsToZero residual then "" else " " ++ shift ++ "(" ++ px residual ++ ")"
    ⟨[⟨near, "50%"⟩], some (shift ++ "(-50%)" ++ remaining)⟩

/-- The rotation of a node in style values, which turn the other way. -/
def rotation (layer : Layer) : String := "rotate(" ++ degrees (-layer.rotation) ++ ")"

/-- What places a node at an offset in a container; in a flow it is the stacking alone. A rotation,
if it is shown, comes after all shifts. -/
def placeAt (layer : Layer) (container : Container) (offset : Single × Single) (order : Int)
    (rotated : Bool) : List Declaration :=
  let horizontal :=
    anchor .horizontal layer.constraints.horizontal offset.1 layer.width container.width
  let vertical :=
    anchor .vertical layer.constraints.vertical offset.2 layer.height container.height
  let anchors := if container.hasInFlow layer then [] else [horizontal, vertical]
  let transforms :=
    anchors.filterMap Anchor.shift ++ if rotated then [rotation layer] else []
  (if container.hasInFlow layer then [] else [⟨"position", "absolute"⟩]) ++
    anchors.flatMap Anchor.declarations ++
    (if rotated then [⟨"transform-origin", "0 0"⟩] else []) ++
    (if transforms.isEmpty then [] else [⟨"transform", " ".intercalate transforms⟩]) ++
    [⟨"z-index", toString order⟩]

/-- What places a node in its container, among its siblings by a stacking order. -/
def place (options : Options) (layer : Layer) (container : Container) (order : Int) :
    List Declaration :=
  placeAt layer container (offset options layer container) order
    (layer.isRotated options.rotationTolerance)

/-! ### Rotated pictures -/

/-- Half of what the box in the document is larger than the node, along each axis. -/
def rotationInset (layer : Layer) : Single × Single :=
  match layer.bounds with
  | some bounds => ((bounds.width - layer.width) / 2, (bounds.height - layer.height) / 2)
  | none => (0, 0)

/-- The margin that makes up for the inset of a node in a flow. -/
def insetMargin (inset : Single × Single) : List Declaration :=
  if inset.1.compact = "0" ∧ inset.2.compact = "0" then []
  else [⟨"margin", px inset.2 ++ " " ++ px inset.1⟩]

/-- What places the box that keeps the size of a rotated picture, in the middle of its box in the
document. -/
def rotatedSlot (options : Options) (layer : Layer) (container : Container) (order : Int) :
    List Declaration :=
  let inset := rotationInset layer
  let corner := offset options layer container
  (if container.hasInFlow layer then insetMargin inset else []) ++
    placeAt layer container (corner.1 + inset.1, corner.2 + inset.2) order false

/-- The size of the box that keeps the size of a rotated picture. -/
def rotatedOuter (layer : Layer) : List Declaration :=
  [⟨"width", px layer.width⟩, ⟨"height", px layer.height⟩]

/-- The rotated box in the middle of that box. -/
def rotatedInner (layer : Layer) : List Declaration :=
  [⟨"position", "absolute"⟩, ⟨"left", "50%"⟩, ⟨"top", "50%"⟩, ⟨"width", px layer.width⟩,
    ⟨"height", px layer.height⟩, ⟨"transform", "translate(-50%, -50%) " ++ rotation layer⟩]

/-! ### Masks -/

/-- What places the box that stands for a mask. -/
def maskSlot (options : Options) (mask : Layer) (container : Container) (order : Int) :
    List Declaration :=
  let corner := offset options mask container
  [⟨"position", "absolute"⟩, ⟨"left", px corner.1⟩, ⟨"top", px corner.2⟩,
    ⟨"width", px mask.width⟩, ⟨"height", px mask.height⟩, ⟨"overflow", "hidden"⟩,
    ⟨"z-index", toString order⟩]

end SceneMarkup.Position
