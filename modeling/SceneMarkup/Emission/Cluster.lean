import SceneMarkup.Emission.Sketch
import SceneMarkup.Layout.Sizing
import SceneMarkup.Position.Anchor

/-!
# Children and masks

A mask hides what lies outside of it of the siblings after it, up to the next mask. A hidden mask
ends the siblings of an earlier one and masks none.

* `Slot`: where a node is shown;
* `Member`: a child, and how it is shown in a slot;
* `Cluster`: a child by itself, or the siblings that a mask covers;
* `clusters`: the children of a container as clusters, in document order.
-/

namespace SceneMarkup.Emission

open Scene (Node)
open Layout (Placement)
open Position (Container)

/-- Where a node is shown: at the root, or as one of the children of a container. -/
inductive Slot where
  | root
  | child (container : Container) (placement : Placement) (index count : Nat)
  deriving DecidableEq

/-- The placement of a node in its slot. -/
def Slot.placement : Slot → Placement
  | root => .root
  | child _ placement _ _ => placement

/-- A child, and how it is shown in a slot. -/
structure Member where
  node : Node
  draw : Slot → Option Sketch

namespace Member

def isMask (member : Member) : Bool := member.node.layer.isMask

/-- A mask that covers the siblings after it. -/
def isActiveMask (member : Member) : Bool := member.isMask && member.node.layer.visible

end Member

/-- A child with its index, or the siblings that a mask covers with the index of the first. -/
inductive Cluster where
  | single (index : Nat) (member : Member)
  | run (mask : Member) (first : Nat) (members : List Member)

/-- Children that no mask covers, from an index on. -/
def singles (index : Nat) : List Member → List Cluster
  | [] => []
  | member :: rest => .single index member :: singles (index + 1) rest

/-- The children in front of the first mask, and the clusters from there on, counted from an
index. -/
def splitAtMask (index : Nat) : List Member → List Member × List Cluster
  | [] => ([], [])
  | member :: rest =>
    let (lead, later) := splitAtMask (index + 1) rest
    if !member.isMask then (member :: lead, later)
    else if member.isActiveMask then
      ([], .single index member :: .run member (index + 1) lead :: later)
    else ([], .single index member :: singles (index + 1) lead ++ later)

/-- The clusters of the children of a container. -/
def clusters (members : List Member) : List Cluster :=
  let (lead, later) := splitAtMask 0 members
  singles 0 lead ++ later

end SceneMarkup.Emission
