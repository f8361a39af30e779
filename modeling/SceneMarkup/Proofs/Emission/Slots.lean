import SceneMarkup.Proofs.Emission.Masking
import SceneMarkup.Proofs.Emission.Reach

/-!
# Where children are shown

A child that no mask covers is shown in its container, the others in the box of the mask that covers
them.

* `SlotIn`: the slots in which a container shows a child;
* `Piece.slotIn`: the children of a piece are shown in such slots;
* `SlotIn.agrees`: what sizes a child and what places it agree on whether it is in a flow;
* `Slotted`: the slots of what is met on the way down from a node that is shown in a slot.
-/

namespace SceneMarkup.Emission

open Scene (Layer Node Visit shownIn)
open Layout (childPlacement)
open Picture (Assets)
open Position (Container)

/-- The slots in which a container shows the child with an index. -/
inductive SlotIn (parent child : Node) (index : Nat) : Slot → Prop
  /-- In the container, if no mask covers the child. -/
  | own {container : Container} (isContainer : Container.ofLayer? parent.layer = some container)
      (alone : ∀ i, ¬ Covers parent.children i index) :
      SlotIn parent child index
        (.child container (childPlacement parent.layer child.layer) index parent.children.length)
  /-- In the box of the mask that covers the child, among all that follow the mask. -/
  | covered {container : Container} {mask : Node} {i : Nat}
      (isContainer : Container.ofLayer? parent.layer = some container)
      (isMask : (mask, i) ∈ parent.children.zipIdx) (covers : Covers parent.children i index) :
      SlotIn parent child index
        (.child (.ofMask mask.layer) .absolute (index - (i + 1)) (runAt parent.children i).length)

/-- Every child in a piece is shown in a slot of the container. -/
theorem Piece.slotIn {options : Options} {assets : Assets} {layer : Layer} {container : Container}
    (isContainer : Container.ofLayer? layer = some container) {children : List Node} {piece : Piece}
    (made : piece ∈ pieces (members options assets children)) {child : Node × Nat}
    (inside : child ∈ piece.shown) :
    SlotIn (.mk layer children) child.1 child.2
      (piece.slot layer container children child.1 child.2) := by
  have nodes := map_node_members options assets children
  cases piece with
  | own node index =>
    obtain rfl := List.mem_singleton.1 inside
    refine .own isContainer fun i covers => not_covers_of_own made i ?_
    rwa [nodes]
  | wrapper mask i covered =>
    obtain ⟨isMask, -, holds⟩ := mem_wrapper made
    rw [nodes] at isMask holds
    obtain ⟨-, -, covers⟩ := (holds child.1 child.2).1 inside
    exact .covered isContainer isMask covers

/-- A child is in the flow of a frame that has one, unless it is absolute. -/
theorem hasInFlow_of_ofLayer? {parent : Layer} {container : Container}
    (isContainer : Container.ofLayer? parent = some container) (child : Layer) :
    container.hasInFlow child = (parent.isAutoLayout && !child.isAbsolute) := by
  unfold Container.ofLayer? at isContainer
  unfold Layer.isAutoLayout Layer.frame?
  cases kind : parent.kind <;> rw [kind] at isContainer <;> cases isContainer
  case frame frame =>
    rw [Option.any_some, Container.hasInFlow]
    cases frame.isAutoLayout <;> rfl
  case group => rfl

/-- A child is placed in a flow or a grid by a frame that has one, unless it is absolute. -/
theorem childPlacement_eq_absolute_iff (parent child : Layer) :
    childPlacement parent child = .absolute ↔
      (parent.isAutoLayout && !child.isAbsolute) = false := by
  unfold childPlacement Layer.isAutoLayout
  cases child.isAbsolute with
  | true => simp
  | false =>
    cases parent.frame? with
    | none => simp
    | some frame =>
      rw [Option.any_some, Option.map_some, Scene.Frame.isAutoLayout]
      cases frame.mode <;> decide

/-- What sizes the node in a slot and what places it agree on whether it is in a flow. -/
def Slot.Agrees (layer : Layer) : Slot → Prop
  | .root => True
  | .child container placement _ _ => placement = .absolute ↔ container.hasInFlow layer = false

/-- What sizes a child and what places it agree on whether it is in a flow. -/
theorem SlotIn.agrees {parent child : Node} {index : Nat} {slot : Slot}
    (slotIn : SlotIn parent child index slot) : slot.Agrees child.layer := by
  cases slotIn with
  | own isContainer alone =>
    rw [Slot.Agrees, hasInFlow_of_ofLayer? isContainer]
    exact childPlacement_eq_absolute_iff parent.layer child.layer
  | covered isContainer isMask covers => exact iff_of_true rfl rfl

/-- The slots of what is met on the way down from a node that is shown in a slot. -/
inductive Slotted (address : List Nat) (node : Node) (slot : Slot) : Visit → Slot → Prop
  | start : Slotted address node slot (address, node) slot
  | child {way : List Nat} {parent : Node} {above : Slot} {child : Node × Nat} {place : Slot}
      (met : Slotted address node slot (way, parent) above)
        (shown : child ∈ shownIn parent.children)
      (slotIn : SlotIn parent child.1 child.2 place) :
      Slotted address node slot (child.2 :: way, child.1) place

/-- What is met below a child is met below its container. -/
theorem Slotted.of_child {address : List Nat} {node : Node} {slot : Slot} {child : Node × Nat}
    {place : Slot} (shown : child ∈ shownIn node.children)
    (slotIn : SlotIn node child.1 child.2 place) {visit : Visit} {at' : Slot}
    (met : Slotted (child.2 :: address) child.1 place visit at') :
    Slotted address node slot visit at' := by
  induction met with
  | start => exact .child .start shown slotIn
  | child _ shownBelow slotBelow ih => exact .child ih shownBelow slotBelow

end SceneMarkup.Emission
