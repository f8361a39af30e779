import SceneMarkup.Proofs.Emission.Properties

/-!
# The edges of a node

* `declares_position_placeAt`: a node is positioned if it is out of any flow;
* `not_declares_edge_of_hasInFlow`: in a flow it has no edges;
* `declares_edge_of_not_hasInFlow`, `both_edges_anchor_iff`: out of one it has those that its
  constraints give, and both edges of an axis if it is stretched along that axis.
-/

namespace SceneMarkup.Position

open Css (declares)
open Scene (Axis Constraint Layer)

variable {layer : Layer} {container : Container}

/-- A node out of a flow is positioned, and a node in a flow is not. -/
theorem declares_position_placeAt (layer : Layer) (container : Container) (offset : Single × Single)
    (order : Int) (rotated : Bool) :
    declares (placeAt layer container offset order rotated) "position" =
      !container.hasInFlow layer := by
  cases flow : container.hasInFlow layer with
  | true =>
    rw [placeAt_of_hasInFlow flow]
    exact Css.not_declares_of_declaresOnly (shifting_shifts _ _ _ _) (by decide)
  | false =>
    rw [placeAt_of_not_hasInFlow flow]
    rfl

/-- An edge is no position. -/
theorem position_ne_edge (axis : Axis) : ∀ edge ∈ edgeProperties axis, "position" ≠ edge := by
  cases axis <;> decide

/-- Edges do not move a node from where it lies. -/
theorem edge_not_shift (axis : Axis) : ∀ edge ∈ edgeProperties axis, edge ∉ shiftingProperties := by
  cases axis <;> decide

/-- A node in a flow has no edges. -/
theorem not_declares_edge_of_hasInFlow (flow : container.hasInFlow layer = true)
    (offset : Single × Single) (order : Int) (rotated : Bool) {axis : Axis} {edge : String}
    (isEdge : edge ∈ edgeProperties axis) :
    declares (placeAt layer container offset order rotated) edge = false := by
  rw [placeAt_of_hasInFlow flow]
  exact Css.not_declares_of_declaresOnly (shifting_shifts _ _ _ _) (edge_not_shift axis edge isEdge)

/-- The edges of a node out of a flow along an axis are those that the constraint of the axis
gives. -/
theorem declares_edge_of_not_hasInFlow (free : container.hasInFlow layer = false)
    (offset : Single × Single) (order : Int) (rotated : Bool) (axis : Axis) :
    ∃ at' size extent, ∀ edge ∈ edgeProperties axis,
      declares (placeAt layer container offset order rotated) edge =
        declares (anchor axis (layer.constraints.on axis) at' size extent).declarations edge := by
  rw [placeAt_of_not_hasInFlow free]
  have apart : ∀ axis, ∀ edge ∈ edgeProperties axis,
      edge ∉ edgeProperties (Layout.crossAxis axis) := by
    intro axis
    cases axis <;> decide
  have edgesOnly : ∀ edge ∈ edgeProperties axis, ∀ first second anchors,
      declares
        (⟨"position", "absolute"⟩ :: (first ++ (second ++ shifts layer anchors order rotated)))
        edge = (declares first edge || declares second edge) := by
    intro edge isEdge first second anchors
    rw [declares, List.any_cons, beq_false_of_ne (position_ne_edge axis edge isEdge), Bool.false_or,
      ← declares, Css.declares_append, Css.declares_append,
      Css.not_declares_of_declaresOnly (shifting_shifts _ _ _ _) (edge_not_shift axis edge isEdge),
      Bool.or_false]
  cases axis with
  | horizontal =>
    refine ⟨offset.1, layer.width, container.width, fun edge isEdge => ?_⟩
    rw [edgesOnly edge isEdge,
      Css.not_declares_of_declaresOnly (edges_anchor .vertical _ _ _ _) (apart _ edge isEdge),
      Bool.or_false]
    rfl
  | vertical =>
    refine ⟨offset.2, layer.height, container.height, fun edge isEdge => ?_⟩
    rw [edgesOnly edge isEdge,
      Css.not_declares_of_declaresOnly (edges_anchor .horizontal _ _ _ _) (apart _ edge isEdge),
      Bool.false_or]
    rfl

/-- Both edges are given along an axis exactly if the constraint stretches the node. -/
theorem both_edges_anchor_iff (axis : Axis) (constraint : Constraint)
    (offset size extent : Single) :
    (∀ edge ∈ edgeProperties axis,
        declares (anchor axis constraint offset size extent).declarations edge = true) ↔
      constraint = .stretch := by
  cases axis <;> cases constraint <;>
    simp only [edgeProperties, edges, anchor, declares, List.any_cons, List.any_nil] <;> decide

end SceneMarkup.Position
