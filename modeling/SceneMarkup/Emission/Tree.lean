import SceneMarkup.Emission.Leaf
import SceneMarkup.Layout.Container

/-!
# Trees

* `clusterSketch?`: a cluster as it is shown in its container;
* `containerSketch`: a frame or a group with its children;
* `sketch`: a node with everything below it, in a slot. Hidden nodes and spacers are not shown, the
  root always is; a node whose numbers are not finite is a fault;
* `emitRoot`: the markup of a tree, or its first fault.
-/

namespace SceneMarkup.Emission

open Scene (Layer Node)
open Css (lastOfEach)
open Picture (Assets)
open Position (Container)

/-- The box of a mask with the siblings that it covers, if any of them is shown. -/
def runSketch (options : Options) (container : Container) (count : Nat) (mask : Layer) (first : Nat)
    (members : List Member) : Option Sketch :=
  let shown :=
    members.zipIdx.filterMap fun (member, index) =>
      member.draw (.child (.ofMask mask) .absolute index members.length)
  if shown.isEmpty then none
  else
    some (.masked (clipRequest? options mask)
      (Position.maskSlot options mask container
        (Position.stackingOrder container.kind first count))
      shown)

/-- A cluster as it is shown among `count` children of a container. -/
def clusterSketch? (options : Options) (parent : Layer) (container : Container) (count : Nat) :
    Cluster → Option Sketch
  | .single index member =>
    member.draw (.child container (Layout.childPlacement parent member.node.layer) index count)
  | .run mask first members => runSketch options container count mask.node.layer first members

/-- The children of a container as they are shown. -/
def childSketches (options : Options) (parent : Layer) (members : List Member) : List Sketch :=
  match Container.ofLayer? parent with
  | none => []
  | some container =>
    (clusters members).filterMap (clusterSketch? options parent container members.length)

/-- The sketch of a frame or a group. -/
def containerSketch (options : Options) (layer : Layer) (members : List Member) (slot : Slot) :
    Sketch :=
  let sized := Layout.sizeIn slot.placement layer
  let clips := if layer.frame?.any Scene.Frame.clipsContent then [⟨"overflow", "hidden"⟩] else []
  let children := childSketches options layer members
  let style := positionStyle options layer slot
  .element
    { tag := "div"
      styling :=
        { sizing := sized.requests
          own :=
            ownRequest? layer
              (sized.declarations ++ Appearance.boxDeclarations options layer ++ clips)
          layout := (layer.frame?.map Layout.containerRequests).getD [] }
      style := lastOfEach (if children.isEmpty then style else anchoring style) }
    children

/-- A node in a slot, given its children. -/
def layerSketch (options : Options) (assets : Assets) (layer : Layer) (members : List Member)
    (slot : Slot) : Sketch :=
  if !layer.hasFiniteGeometry then .fault layer.id
  else
    match layer.kind with
    | .frame _ | .group => containerSketch options layer members slot
    | .text text => textSketch options layer text slot
    | .rectangle => boxSketch options layer slot
    | .ellipse | .vector => pictureSketch options layer (assets.find layer.id) slot

mutual

/-- A node in a slot with everything below it, if it is shown. -/
def sketch (options : Options) (assets : Assets) : Node → Slot → Option Sketch
  | .mk layer children, slot =>
    if slot ≠ .root ∧ (!layer.visible || (Node.mk layer children).isSpacer) then none
    else some (layerSketch options assets layer (members options assets children) slot)

/-- Children, each with how it is shown in a slot. -/
def members (options : Options) (assets : Assets) : List Node → List Member
  | [] => []
  | child :: rest => ⟨child, sketch options assets child⟩ :: members options assets rest

end

theorem members_eq_map (options : Options) (assets : Assets) (children : List Node) :
    members options assets children =
      children.map fun child => ⟨child, sketch options assets child⟩ := by
  induction children with
  | nil => rfl
  | cons child rest ih => rw [members, List.map_cons, ih]

/-- The sketch of a tree. -/
def rootSketch (options : Options) (assets : Assets) (root : Node) : Sketch :=
  layerSketch options assets root.layer (members options assets root.children) .root

/-- The markup of a tree, or the identifier of its first node that cannot be placed, and the sheet
after what was named. -/
def emitRoot (options : Options) (assets : Assets) (sheet : Sheet) (root : Node) :
    Except String Markup × Sheet :=
  (rootSketch options assets root).name sheet

end SceneMarkup.Emission
