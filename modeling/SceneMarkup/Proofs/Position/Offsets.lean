import Mathlib.Algebra.Group.Basic
import Mathlib.Algebra.Group.Prod
import Mathlib.Algebra.Ring.Int.Defs
import SceneMarkup.Position.Container
import SceneMarkup.Proofs.Numeric.Exact

/-!
# Offsets in a document

The children of a frame count from its corner, those of a group from where the group itself counts
from. Boxes in the document count from the same origin everywhere. If all of these agree, an offset
is the difference of two places in the document, whichever way it is measured.

* `corner`, `innerOrigin`: where a node lies, and where its children count from;
* `isCharted`, `isSurveyed`: a node, and a tree, whose coordinates are small whole numbers and
  agree;
* `StandsAt`: a container that stands at a place of the document;
* `standsAt_ofLayer?`, `standsAt_ofMask`: frames, groups and masks stand at their corners;
* `StandsAt.offset`: the offset of a node in such a container is the difference of their places.
-/

namespace SceneMarkup.Position

open Binary (Denotes denotes_whole whole)
open Scene (Bounds Layer Node)

/-! ### Coordinates -/

/-- Two numbers that are whole numbers. -/
def DenotesBoth (numbers : Single × Single) (place : Int × Int) : Prop :=
  Denotes numbers.1 place.1 ∧ Denotes numbers.2 place.2

/-- A whole number of at most 22 bits. -/
def isSmall (x : Single) : Bool :=
  x.isFinite && x.isWhole && decide ((whole x).natAbs < Nat.pow 2 22)

/-- Coordinates of a place, of at most 22 bits each. -/
structure IsAt (x y : Single) (place : Int × Int) : Prop where
  denotes : DenotesBoth (x, y) place
  small : place.1.natAbs < Nat.pow 2 22 ∧ place.2.natAbs < Nat.pow 2 22

theorem isAt_of_isSmall {x y : Single} (hx : isSmall x = true) (hy : isSmall y = true) :
    IsAt x y (whole x, whole y) := by
  simp only [isSmall, Bool.and_eq_true_iff, decide_eq_true_iff] at hx hy
  exact ⟨⟨denotes_whole hx.1.1 hx.1.2, denotes_whole hy.1.1 hy.1.2⟩, hx.2, hy.2⟩

theorem isAt_zero : IsAt 0 0 0 := by
  have zero : Denotes (0 : Single) 0 := Binary.denotes_ofNat (by decide) (Nat.zero_le _)
  exact ⟨⟨zero, zero⟩, by decide⟩

/-- Between two places the distance is exact. -/
theorem IsAt.sub {x y x' y' : Single} {place place' : Int × Int} (h : IsAt x y place)
    (h' : IsAt x' y' place') : DenotesBoth (x - x', y - y') (place - place') := by
  have near : ∀ m n : Int, m.natAbs < Nat.pow 2 22 → n.natAbs < Nat.pow 2 22 →
      (m - n).natAbs ≤ Nat.pow 2 Format.single.precision := by
    intro m n hm hn
    rw [show Nat.pow 2 22 = 4194304 from rfl] at hm hn
    rw [show Nat.pow 2 Format.single.precision = 16777216 from rfl]
    omega
  exact ⟨h.denotes.1.sub (by decide) h'.denotes.1 (near _ _ h.small.1 h'.small.1),
    h.denotes.2.sub (by decide) h'.denotes.2 (near _ _ h.small.2 h'.small.2)⟩

/-! ### Places in the document -/

/-- Where the corner of a node lies whose coordinates count from an origin. -/
def corner (origin : Int × Int) (layer : Layer) : Int × Int :=
  (origin.1 + whole layer.x, origin.2 + whole layer.y)

/-- Where the children of a node count from: the corner of a frame, and the origin of a group. -/
def innerOrigin (origin : Int × Int) (layer : Layer) : Int × Int :=
  match layer.kind with
  | .frame _ => corner origin layer
  | .group | .text _ | .rectangle | .ellipse | .vector => origin

/-- An upright node with small whole coordinates, whose box in the document, if it is known, has its
corner where the node lies. -/
def isCharted (options : Options) (origin : Int × Int) (layer : Layer) : Bool :=
  !layer.isRotated options.rotationTolerance && isSmall layer.x && isSmall layer.y &&
    layer.bounds.all fun bounds =>
      isSmall bounds.x && isSmall bounds.y &&
        decide ((whole bounds.x, whole bounds.y) = corner origin layer)

mutual

/-- A node that is charted, as is everything in it. -/
def isSurveyed (options : Options) : Node → Int × Int → Bool
  | .mk layer children, origin =>
    isCharted options origin layer &&
      (!layer.isContainer || areSurveyed options children (innerOrigin origin layer))

/-- Nodes one after the other, each of them surveyed. -/
def areSurveyed (options : Options) : List Node → Int × Int → Bool
  | [], _ => true
  | child :: rest, origin => isSurveyed options child origin && areSurveyed options rest origin

end

variable {options : Options}

theorem areSurveyed_iff {children : List Node} {origin : Int × Int} :
    areSurveyed options children origin = true ↔
      ∀ child ∈ children, isSurveyed options child origin = true := by
  induction children with
  | nil => exact iff_of_true rfl fun _ mem => by cases mem
  | cons child rest ih => rw [areSurveyed, Bool.and_eq_true_iff, ih, List.forall_mem_cons]

theorem isCharted_of_isSurveyed {node : Node} {origin : Int × Int}
    (surveyed : isSurveyed options node origin = true) :
    isCharted options origin node.layer = true := by
  cases node with
  | mk layer children => exact (Bool.and_eq_true_iff.1 surveyed).1

/-- The children of a container that is surveyed are, from where they count. -/
theorem isSurveyed_of_mem {node child : Node} {origin : Int × Int}
    (surveyed : isSurveyed options node origin = true) (isContainer : node.layer.isContainer = true)
    (inside : child ∈ node.children) :
    isSurveyed options child (innerOrigin origin node.layer) = true := by
  cases node with
  | mk layer children =>
    rw [isSurveyed, Bool.and_eq_true_iff] at surveyed
    rw [Node.layer_mk] at isContainer
    rw [isContainer, Bool.not_true, Bool.false_or] at surveyed
    exact areSurveyed_iff.1 surveyed.2 child inside

/-! ### Charted nodes -/

section Charted

variable {origin : Int × Int} {layer : Layer} (charted : isCharted options origin layer = true)
include charted

theorem not_isRotated_of_isCharted : layer.isRotated options.rotationTolerance = false := by
  simp only [isCharted, Bool.and_eq_true_iff, Bool.not_eq_true'] at charted
  exact charted.1.1.1

/-- The coordinates of a node lead from where it counts from to its corner. -/
theorem isAt_coordinates : IsAt layer.x layer.y (corner origin layer - origin) := by
  simp only [isCharted, Bool.and_eq_true_iff] at charted
  have leads : corner origin layer - origin = (whole layer.x, whole layer.y) := by
    simp [corner, Prod.ext_iff]
  rw [leads]
  exact isAt_of_isSmall charted.1.1.2 charted.1.2

/-- The box of a node in the document has its corner at that of the node. -/
theorem isAt_bounds {bounds : Bounds} (known : layer.bounds = some bounds) :
    IsAt bounds.x bounds.y (corner origin layer) := by
  simp only [isCharted, known, Option.all_some, Bool.and_eq_true_iff, decide_eq_true_iff] at charted
  obtain ⟨-, ⟨hx, hy⟩, same⟩ := charted
  rw [← same]
  exact isAt_of_isSmall hx hy

end Charted

/-! ### Containers -/

/-- A container that stands at a place, for children that count from an origin. -/
structure StandsAt (container : Container) (origin place : Int × Int) : Prop where
  counts : IsAt container.originX container.originY (place - origin)
  bounds : ∀ bounds, container.bounds = some bounds → IsAt bounds.x bounds.y place

/-- A frame or a group stands at its corner. -/
theorem standsAt_ofLayer? {origin : Int × Int} {layer : Layer}
    (charted : isCharted options origin layer = true) {container : Container}
    (isContainer : Container.ofLayer? layer = some container) :
    StandsAt container (innerOrigin origin layer) (corner origin layer) := by
  have bounds : container.bounds = layer.bounds := by
    unfold Container.ofLayer? at isContainer
    split at isContainer <;> cases isContainer <;> rfl
  refine ⟨?_, fun box known => isAt_bounds charted (bounds ▸ known)⟩
  unfold Container.ofLayer? at isContainer
  unfold innerOrigin
  cases kind : layer.kind <;> rw [kind] at isContainer <;> cases isContainer
  case frame frame =>
    simp only [sub_self]
    exact isAt_zero
  case group => exact isAt_coordinates charted

/-- The box of a mask stands at the corner of the mask, for siblings of the mask. -/
theorem standsAt_ofMask {origin : Int × Int} {mask : Layer}
    (charted : isCharted options origin mask = true) :
    StandsAt (.ofMask mask) origin (corner origin mask) :=
  ⟨isAt_coordinates charted, fun _ known => isAt_bounds charted known⟩

/-- **An offset is the difference of two places**, whether it is measured from coordinates or from
boxes in the document. -/
theorem StandsAt.offset {container : Container} {origin place : Int × Int}
    (stands : StandsAt container origin place) {layer : Layer}
    (charted : isCharted options origin layer = true) :
    DenotesBoth (offset options layer container) (corner origin layer - place) := by
  have byOrigin := (isAt_coordinates charted).sub stands.counts
  rw [sub_sub_sub_cancel_right] at byOrigin
  unfold Position.offset
  rw [not_isRotated_of_isCharted charted, Bool.false_or]
  split
  · split
    · next known outer => exact (isAt_bounds charted known).sub (stands.bounds _ outer)
    · exact byOrigin
  · exact byOrigin

end SceneMarkup.Position
