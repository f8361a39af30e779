import SceneMarkup.Options
import SceneMarkup.Scene.Node

/-!
# What a node is placed in

* `Container`: a frame, a group, or the box that stands for a mask;
* `Container.ofLayer?`, `Container.ofMask`: the containers of a scene;
* `Container.hasInFlow`: whether a node takes part in the flow of a container;
* `offset`: how far a node lies from the corner of its container;
* `stackingOrder`: which of its siblings a node lies above.
-/

namespace SceneMarkup.Position

open Scene (Bounds Layer)

/-- The kinds of containers. A frame may have a flow, and may stack its children in reverse. -/
inductive ContainerKind where
  | frame (flow reversed : Bool)
  | group
  | mask
  deriving DecidableEq, Repr

/-- What a node is placed in: its kind, its size, the coordinates of its corner as its children
count them, and its box in the document. -/
structure Container where
  kind : ContainerKind
  width : Single
  height : Single
  originX : Single
  originY : Single
  bounds : Option Bounds
  deriving DecidableEq

namespace Container

/-- The container of a frame or a group. The children of a group count like the group itself. -/
def ofLayer? (layer : Layer) : Option Container :=
  match layer.kind with
  | .frame frame =>
    some ⟨.frame frame.isAutoLayout frame.reversedStacking, layer.width, layer.height, 0, 0,
      layer.bounds⟩
  | .group => some ⟨.group, layer.width, layer.height, layer.x, layer.y, layer.bounds⟩
  | .text _ | .rectangle | .ellipse | .vector => none

/-- The box that stands for a mask. What it masks counts like the mask itself. -/
def ofMask (mask : Layer) : Container :=
  ⟨.mask, mask.width, mask.height, mask.x, mask.y, mask.bounds⟩

/-- A node takes part in the flow of a container. -/
def hasInFlow (container : Container) (layer : Layer) : Bool :=
  match container.kind with
  | .frame true _ => !layer.isAbsolute
  | .frame false _ | .group | .mask => false

/-- The children measure from boxes in the document. -/
def prefersBounds (container : Container) : Bool :=
  match container.kind with
  | .frame .. => false
  | .group | .mask => true

end Container

/-- How far the corner of a node lies from that of its container. Rotated nodes, and what is in a
group or a mask, measure from boxes in the document if both are known. -/
def offset (options : Options) (layer : Layer) (container : Container) : Single × Single :=
  let byOrigin := (layer.x - container.originX, layer.y - container.originY)
  if layer.isRotated options.rotationTolerance || container.prefersBounds then
    match layer.bounds, container.bounds with
    | some own, some outer => (own.x - outer.x, own.y - outer.y)
    | _, _ => byOrigin
  else byOrigin

/-- The place of the `index`-th of `count` siblings above each other. The children of a frame begin
at one, above its own background. -/
def stackingOrder (kind : ContainerKind) (index count : Int) : Int :=
  match kind with
  | .frame _ false => index + 1
  | .frame _ true => count - index
  | .group | .mask => index

end SceneMarkup.Position
