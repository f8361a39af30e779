import SceneMarkup.Scene.Effect
import SceneMarkup.Scene.Frame
import SceneMarkup.Scene.TextStyle

/-!
# Scene nodes

A scene is a tree. What a node shows by itself is its layer; its children lie in it, the lowest
first.

* `Kind`: the kinds of nodes that differ in how they are shown;
* `Layer`: a node without its children;
* `Node`: a layer and its children;
* `Layer.corners`, `Layer.hasFiniteGeometry`, `Node.isSpacer`: what conversions ask of a node.
-/

namespace SceneMarkup.Scene

/-- The kinds of nodes. Frames and groups hold children; ellipses and vectors are pictures. -/
inductive Kind where
  | frame (frame : Frame)
  | group
  | text (text : TextStyle)
  | rectangle
  | ellipse
  | vector
  deriving DecidableEq

/-- A node without its children. -/
structure Layer where
  id : String
  name : String := ""
  kind : Kind
  visible : Bool := true
  opacity : Single := 1
  blendMode : BlendMode := .passThrough
  /-- In degrees, counter-clockwise. -/
  rotation : Single := 0
  x : Single := 0
  y : Single := 0
  width : Single := 0
  height : Single := 0
  /-- The upright box around the node, in the coordinates of the document. -/
  bounds : Option Bounds := none
  cornerRadius : Option Single := none
  topLeftRadius : Option Single := none
  topRightRadius : Option Single := none
  bottomRightRadius : Option Single := none
  bottomLeftRadius : Option Single := none
  fills : List Paint := []
  strokes : List Paint := []
  strokeWeight : Single := 0
  strokeAlign : StrokeAlign := .center
  effects : List Effect := []
  isMask : Bool := false
  maskType : MaskType := .alpha
  positioning : Positioning := .auto
  constraints : Constraints := {}
  sizingHorizontal : Option Sizing := none
  sizingVertical : Option Sizing := none
  grow : Single := 0
  crossAlign : CrossAlign := .inherit
  deriving DecidableEq

namespace Layer

variable (layer : Layer)

def frame? : Option Frame :=
  match layer.kind with
  | .frame frame => some frame
  | _ => none

def text? : Option TextStyle :=
  match layer.kind with
  | .text text => some text
  | _ => none

/-- Frames and groups hold children. -/
def isContainer : Bool :=
  match layer.kind with
  | .frame _ | .group => true
  | _ => false

/-- Ellipses and vectors are shown as pictures. -/
def isVectorLike : Bool :=
  match layer.kind with
  | .ellipse | .vector => true
  | _ => false

def isAutoLayout : Bool := layer.frame?.any Frame.isAutoLayout

/-- Rotated by no less than a tolerance. -/
def isRotated (tolerance : Single) : Bool := decide (tolerance ≤ layer.rotation.abs)

def isAbsolute : Bool := layer.positioning == .absolute

/-- The explicit sizing of an axis. -/
def sizing? : Axis → Option Sizing
  | .horizontal => layer.sizingHorizontal
  | .vertical => layer.sizingVertical

/-- The extent of a node along an axis. -/
def extent : Axis → Single
  | .horizontal => layer.width
  | .vertical => layer.height

/-- The corners: a radius of its own wins over the common one, and equal corners are uniform. -/
def corners : CornerRadius :=
  let common := layer.cornerRadius.getD 0
  let topLeft := layer.topLeftRadius.getD common
  let topRight := layer.topRightRadius.getD common
  let bottomRight := layer.bottomRightRadius.getD common
  let bottomLeft := layer.bottomLeftRadius.getD common
  if [topLeft, topRight, bottomRight, bottomLeft].all (·.equals topLeft) then
    if 0 < topLeft then .uniform topLeft else .square
  else .each topLeft topRight bottomRight bottomLeft

/-- Every number that places a node is finite. -/
def hasFiniteGeometry : Bool :=
  layer.bounds.all Bounds.isFinite &&
    [layer.x, layer.y, layer.width, layer.height, layer.rotation, layer.opacity].all Binary.isFinite

/-- Some fill or stroke shows. -/
def hasVisiblePaint : Bool :=
  layer.fills.any Paint.visible || layer.strokes.any Paint.visible

end Layer

/-- A layer and its children, the lowest first. -/
inductive Node where
  | mk (layer : Layer) (children : List Node)

namespace Node

/-- What a node shows by itself. -/
def layer : Node → Layer
  | mk layer _ => layer

def children : Node → List Node
  | mk _ children => children

@[simp] theorem layer_mk (layer : Layer) (children : List Node) :
    (mk layer children).layer = layer :=
  rfl

@[simp] theorem children_mk (layer : Layer) (children : List Node) :
    (mk layer children).children = children :=
  rfl

instance : Inhabited Node := ⟨mk { id := "", kind := .group } []⟩

/-- A flat box that cannot be seen and only keeps its neighbours apart. Texts and vectors are no
such boxes, nor is a container with children. -/
def isSpacer (node : Node) : Bool :=
  let boxy :=
    match node.layer.kind with
    | .frame _ | .group | .rectangle | .ellipse => true
    | .text _ | .vector => false
  let transparent := decide ((node.layer.opacity * 100).roundHalfAway / 100 < 0.01)
  boxy && decide (node.layer.height < 1) && transparent &&
    (!node.layer.isContainer || node.children.isEmpty)

end Node

end SceneMarkup.Scene
