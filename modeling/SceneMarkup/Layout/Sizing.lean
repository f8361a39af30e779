import SceneMarkup.Layout.Utility
import SceneMarkup.Scene.Node

/-!
# The size of nodes

* `Placement`: where a node lies, as far as its size goes;
* `axisSizing`: how an axis of a node gets its size in a placement;
* `Sized`, `sizeIn`: the declarations and the utilities that give it that size;
* `childPlacement`: the placement of a child.
-/

namespace SceneMarkup.Layout

open Scene (Axis Layer Sizing)
open Css (Declaration px)

/-- Where a node lies: at the root, in a flow along an axis, in a grid, or out of any flow. -/
inductive Placement where
  | root
  | flex (mainAxis : Axis)
  | grid
  | absolute
  deriving DecidableEq, Repr

/-- The placement of a child in the layer of its parent. -/
def childPlacement (parent child : Layer) : Placement :=
  if child.isAbsolute then .absolute
  else
    match parent.frame?.map Scene.Frame.mode with
    | some .horizontal => .flex .horizontal
    | some .vertical => .flex .vertical
    | some .grid => .grid
    | some .free | none => .absolute

/-- The size that a node gives an axis by itself. -/
def intrinsicSizing (layer : Layer) (axis : Axis) : Sizing :=
  match layer.kind with
  | .frame frame =>
    match frame.mainAxis with
    | some mainAxis =>
      match if mainAxis = axis then frame.mainSizing else frame.counterSizing with
      | .auto => .hug
      | .fixed => .fixed
    | none => .fixed
  | .text text =>
    match text.autoResize, axis with
    | .widthAndHeight, _ | .height, .vertical => .hug
    | _, _ => .fixed
  | .group | .rectangle | .ellipse | .vector => .fixed

/-- A flow along an axis gives a node its size on another, or the same, axis. -/
def filledByFlow (layer : Layer) (mainAxis axis : Axis) : Bool :=
  if mainAxis = axis then decide (0 < layer.grow) else layer.crossAlign == .stretch

/-- How an axis of a node gets its size. A container that places its children by their coordinates
is fixed. An explicit sizing wins, but only a flow or a grid can be filled. -/
def axisSizing (layer : Layer) (axis : Axis) (placement : Placement) : Sizing :=
  if layer.isContainer && !layer.isAutoLayout then .fixed
  else
    match layer.sizing? axis, placement with
    | some .fixed, _ => .fixed
    | some .hug, _ => .hug
    | some .fill, .flex _ | some .fill, .grid => .fill
    | some .fill, .root | some .fill, .absolute => .fixed
    | none, .flex mainAxis =>
      if filledByFlow layer mainAxis axis then .fill else intrinsicSizing layer axis
    | none, _ => intrinsicSizing layer axis

/-- The property of the extent along an axis. -/
def dimension : Axis → String
  | .horizontal => "width"
  | .vertical => "height"

/-- Both edges of a node are given along an axis, which leaves no room for a size. -/
def isPinned (layer : Layer) (axis : Axis) (placement : Placement) : Bool :=
  placement == .absolute && layer.constraints.on axis == .stretch

/-- The declaration of a fixed size along an axis. -/
def dimensionDeclarations (layer : Layer) (placement : Placement) (axis : Axis) :
    List Declaration :=
  if axisSizing layer axis placement = .fixed && !isPinned layer axis placement then
    [⟨dimension axis, px (layer.extent axis)⟩]
  else []

/-- The other axis. -/
def crossAxis : Axis → Axis
  | .horizontal => .vertical
  | .vertical => .horizontal

/-- The utilities of a node in a flow along an axis. -/
def flowSizeRequests (layer : Layer) (mainAxis : Axis) : List Request :=
  let along := axisSizing layer mainAxis (.flex mainAxis)
  let across := axisSizing layer (crossAxis mainAxis) (.flex mainAxis)
  (if along = .fill then [fixed "grow" [⟨"flex-grow", "1"⟩, ⟨"flex-basis", "0"⟩]] else []) ++
    (if across = .fill then [fixed "self-stretch" [⟨"align-self", "stretch"⟩]] else []) ++
    (if along = .fixed then [fixed "shrink-0" [⟨"flex-shrink", "0"⟩]] else [])

/-- What gives a node its size: utilities, and declarations of its own. -/
structure Sized where
  requests : List Request
  declarations : List Declaration
  deriving DecidableEq

/-- What gives a node its size in a placement. -/
def sizeIn (placement : Placement) (layer : Layer) : Sized where
  requests :=
    match placement with
    | .flex mainAxis => flowSizeRequests layer mainAxis
    | .root | .grid | .absolute => []
  declarations :=
    dimensionDeclarations layer placement .horizontal ++
      dimensionDeclarations layer placement .vertical

/-- The size of the letters of a text. -/
def fontSizeRequest (size : Single) : Request := lengthUtility "text" "font-size" size

end SceneMarkup.Layout
