import Mathlib.Data.List.Basic
import SceneMarkup.Emission.Tree
import SceneMarkup.Proofs.Emission.Clusters
import SceneMarkup.Proofs.Matching
import SceneMarkup.Proofs.Scene.Visits

/-!
# What becomes of children

The children of a container become pieces: those that no mask covers by themselves, the others in
the box of the mask that covers them.

* `drawn`: what a node that is shown becomes in a slot;
* `Piece`, `Piece.shown`, `Piece.sketch`: a child by itself or the box of a mask, the children in
  it, and what it looks like;
* `pieces`: the pieces of the members of a container;
* `childSketches_eq`: a container shows the pieces of its children, and nothing else;
* `flatMap_shown_pieces`: the children in all pieces are those that are shown, in document order;
* `flatMap_childSketches`, `forall_mem_childSketches`: what is collected from a container, and what
  holds of everything in it, by the children that are shown;
* `drawn_induct`: induction on what is drawn;
* `childSketches_of_looksAlike`, `childSketches_congr`: containers look alike if their members do,
  and if the children that are shown in them do.
-/

namespace SceneMarkup.Emission

open Scene (Layer Node shownIn)
open Picture (Assets)
open Position (Container)

variable (options : Options) (assets : Assets)

/-- What a node that is shown becomes in a slot. -/
def drawn (node : Node) (slot : Slot) : Sketch :=
  layerSketch options assets node.layer (members options assets node.children) slot

theorem rootSketch_eq_drawn (root : Node) :
    rootSketch options assets root = drawn options assets root .root :=
  rfl

/-- A child becomes something if it is shown. -/
theorem sketch_child (node : Node) {slot : Slot} (child : slot ≠ .root) :
    sketch options assets node slot =
      if node.isShown then some (drawn options assets node slot) else none := by
  cases node with
  | mk layer children =>
    rw [sketch, Node.isShown, Node.layer_mk]
    cases layer.visible <;> cases (Node.mk layer children).isSpacer <;> simp [child, drawn]

/-- A child and its index, or the box of a mask: the mask, its index, and the children in the box,
each with its index among the children of the container. -/
inductive Piece where
  | own (child : Node) (index : Nat)
  | wrapper (mask : Node) (maskIndex : Nat) (covered : List (Node × Nat))

namespace Piece

/-- The children in a piece, each with its index. -/
def shown : Piece → List (Node × Nat)
  | own child index => [(child, index)]
  | wrapper _ _ covered => covered

end Piece

/-- What follows a mask up to the next one. -/
def runAt (children : List Node) (maskIndex : Nat) : List Node :=
  (children.drop (maskIndex + 1)).takeWhile fun child => !child.layer.isMask

namespace Piece

/-- Where a child in a piece is shown: in the container, or in the box of the mask. -/
def slot (parent : Layer) (container : Container) (children : List Node) :
    Piece → Node → Nat → Slot
  | own _ _, child, index =>
    .child container (Layout.childPlacement parent child.layer) index children.length
  | wrapper mask maskIndex _, _, index =>
    .child (.ofMask mask.layer) .absolute (index - (maskIndex + 1))
      (runAt children maskIndex).length

/-- What the children in a piece become. -/
def contents (parent : Layer) (container : Container) (children : List Node) (piece : Piece) :
    List Sketch :=
  piece.shown.map fun (child, index) =>
    drawn options assets child (piece.slot parent container children child index)

/-- What a piece looks like. -/
def sketch (parent : Layer) (container : Container) (children : List Node) : Piece → Sketch
  | own child index =>
    drawn options assets child ((own child index).slot parent container children child index)
  | wrapper mask maskIndex covered =>
    .masked (clipRequest? options mask.layer)
      (Position.maskSlot options mask.layer container
        (Position.stackingOrder container.kind ((maskIndex + 1 : Nat) : Int) children.length))
      ((wrapper mask maskIndex covered).contents options assets parent container children)

end Piece

/-- The nodes of the members of a cluster that are shown, each with its index. -/
def Cluster.shown (cluster : Cluster) : List (Node × Nat) :=
  (cluster.indexed.map fun (member, index) => (member.node, index)).filter fun child =>
    child.1.isShown

/-- The piece that a cluster becomes. -/
def Cluster.piece (cluster : Cluster) : Piece :=
  match cluster with
  | .single index member => .own member.node index
  | .run mask first _ => .wrapper mask.node (first - 1) cluster.shown

/-- The piece of a cluster, if any of its children is shown. -/
def Cluster.piece? (cluster : Cluster) : Option Piece :=
  if cluster.shown.isEmpty then none else some cluster.piece

/-- The pieces of the members of a container. -/
def pieces (members : List Member) : List Piece := (clusters members).filterMap Cluster.piece?

/-! ### A container shows its pieces -/

theorem Cluster.shown_single (index : Nat) (member : Member) :
    (Cluster.single index member).shown =
      if member.node.isShown then [(member.node, index)] else [] := by
  rw [shown, indexed, List.map_singleton, List.filter_cons, List.filter_nil]

theorem Cluster.shown_piece {cluster : Cluster} (nonempty : cluster.shown ≠ []) :
    cluster.piece.shown = cluster.shown := by
  cases cluster with
  | single index member =>
    rw [shown_single] at nonempty ⊢
    split at nonempty
    · next isShown => rw [if_pos isShown]; rfl
    · exact absurd rfl nonempty
  | run mask first members => rfl

/-- The children in the piece of a cluster are those of the cluster that are shown. -/
theorem Cluster.shown_piece? (cluster : Cluster) :
    cluster.piece?.toList.flatMap Piece.shown = cluster.shown := by
  rw [piece?]
  split
  · next empty => rw [List.isEmpty_iff.1 empty]; rfl
  · next nonempty =>
    rw [Option.toList_some, List.flatMap_singleton]
    exact shown_piece (mt List.isEmpty_iff.2 nonempty)

/-- The members of clusters are the members of the container. -/
theorem mem_of_mem_indexed {members : List Member} {cluster : Cluster}
    (h : cluster ∈ clusters members) {member : Member} {index : Nat}
    (inside : (member, index) ∈ cluster.indexed) : members[index]? = some member := by
  have all : (member, index) ∈ members.zipIdx := by
    rw [← flatMap_indexed_clusters]
    exact List.mem_flatMap_of_mem h inside
  exact List.mk_mem_zipIdx_iff_getElem?.1 all

theorem draw_of_getElem? {children : List Node} {member : Member} {index : Nat}
    (h : (members options assets children)[index]? = some member) :
    member.draw = sketch options assets member.node := by
  rw [members_eq_map, List.getElem?_map] at h
  obtain ⟨child, -, rfl⟩ := Option.map_eq_some_iff.1 h
  rfl

theorem map_node_members (children : List Node) :
    (members options assets children).map Member.node = children := by
  rw [members_eq_map, List.map_map]
  exact List.map_id' children

/-- The nodes of the members that follow a mask. -/
theorem map_node_takeWhile (all : List Member) (maskIndex : Nat) :
    ((all.drop (maskIndex + 1)).takeWhile fun member => !member.isMask).map Member.node =
      runAt (all.map Member.node) maskIndex := by
  rw [runAt, ← List.map_drop, List.takeWhile_map]
  rfl

/-- The members of a run, each drawn with its place in the run, are the children that the run
shows. -/
theorem filterMap_draw {run : List Member}
    (draws : ∀ member ∈ run, member.draw = sketch options assets member.node) (mask : Member)
    (first : Nat) (place : Nat → Slot) (child : ∀ index, place index ≠ .root) :
    (run.zipIdx.filterMap fun (member, index) => member.draw (place index)) =
      (Cluster.run mask first run).shown.map fun (child, index) =>
        drawn options assets child (place (index - first)) := by
  rw [Cluster.shown, Cluster.indexed, List.zipIdx_eq_map_add (i := first), List.map_map,
    List.filter_map, List.map_map, ← List.filterMap_eq_map, List.filterMap_filter]
  refine List.filterMap_congr fun item inside => ?_
  obtain ⟨member, index⟩ := item
  have mem : member ∈ run := List.fst_mem_of_mem_zipIdx inside
  simp only [draws member mem, sketch_child options assets _ (child index), Function.comp,
    Nat.add_sub_cancel_left]

/-- What a cluster shows among the children of a container is its piece. -/
theorem clusterSketch?_eq {parent : Layer} {container : Container} {children : List Node}
    {cluster : Cluster} (h : cluster ∈ clusters (members options assets children)) :
    clusterSketch? options parent container children.length cluster =
      cluster.piece?.map (Piece.sketch options assets parent container children) := by
  have placed := placed_clusters _ cluster h
  have draws : ∀ member index, (member, index) ∈ cluster.indexed →
      member.draw = sketch options assets member.node :=
    fun member index inside => draw_of_getElem? options assets (mem_of_mem_indexed h inside)
  cases cluster with
  | single index member =>
    rw [clusterSketch?, draws member index (List.mem_singleton_self _),
      sketch_child _ _ _ (by simp), Cluster.piece?, Cluster.shown_single]
    cases member.node.isShown <;> rfl
  | run mask first covered =>
    have drawsAll : ∀ member ∈ covered, member.draw = sketch options assets member.node := by
      intro member mem
      obtain ⟨index, bound, here⟩ := List.mem_iff_getElem.1 mem
      refine draws member (first + index) (List.mk_mem_zipIdx_iff_le_and_getElem?_sub.2 ⟨?_, ?_⟩)
      · omega
      · rw [Nat.add_sub_cancel_left, List.getElem?_eq_getElem bound, here]
    -- A run is counted by the members behind its mask, and these are the children behind it.
    obtain ⟨i, rfl, -, -, isRun⟩ := placed
    have count : covered.length = (runAt children i).length := by
      rw [isRun, ← map_node_members options assets children, ← map_node_takeWhile, List.length_map,
        map_node_members]
    rw [clusterSketch?, runSketch, filterMap_draw options assets drawsAll mask (i + 1)
      (fun index => .child (.ofMask mask.node.layer) .absolute index covered.length) (by simp),
      List.isEmpty_map, Cluster.piece?]
    cases (Cluster.run mask (i + 1) covered).shown.isEmpty with
    | true => rfl
    | false =>
      simp only [Bool.false_eq_true, if_false, Option.map_some, Piece.sketch, Piece.contents,
        Piece.shown, Piece.slot, Cluster.piece, Nat.add_sub_cancel, count]

/-- **A container shows the pieces of its children, and nothing else.** -/
theorem childSketches_eq {parent : Layer} {container : Container}
    (isContainer : Container.ofLayer? parent = some container) (children : List Node) :
    childSketches options parent (members options assets children) =
      (pieces (members options assets children)).map
        (Piece.sketch options assets parent container children) := by
  have count : (members options assets children).length = children.length := by
    rw [members_eq_map, List.length_map]
  simp only [childSketches, isContainer, pieces, List.map_filterMap, count]
  exact List.filterMap_congr fun cluster h => clusterSketch?_eq options assets h

/-! ### The children in pieces -/

theorem flatMap_shown_piece? (parts : List Cluster) :
    (parts.filterMap Cluster.piece?).flatMap Piece.shown = parts.flatMap Cluster.shown := by
  induction parts with
  | nil => rfl
  | cons cluster rest ih =>
    rw [List.flatMap_cons, ← ih, ← cluster.shown_piece?]
    cases piece : cluster.piece? with
    | none => rw [List.filterMap_cons_none piece]; rfl
    | some made => rw [List.filterMap_cons_some piece, List.flatMap_cons]; simp

theorem flatMap_shown (parts : List Cluster) :
    parts.flatMap Cluster.shown =
      ((parts.flatMap Cluster.indexed).map fun (member, index) => (member.node, index)).filter
        fun child => child.1.isShown := by
  rw [List.map_flatMap, List.filter_flatMap]
  rfl

theorem map_zipIdx_node (all : List Member) :
    (all.zipIdx.map fun (member, index) => (member.node, index)) =
      (all.map Member.node).zipIdx := by
  rw [List.zipIdx_map]
  rfl

/-- The children in all pieces are those that are shown, in document order. -/
theorem flatMap_shown_pieces (all : List Member) :
    (pieces all).flatMap Piece.shown = shownIn (all.map Member.node) := by
  rw [pieces, flatMap_shown_piece?, flatMap_shown, flatMap_indexed_clusters, map_zipIdx_node,
    shownIn]

theorem flatMap_shown_members (children : List Node) :
    (pieces (members options assets children)).flatMap Piece.shown = shownIn children := by
  rw [flatMap_shown_pieces, map_node_members]

variable {options assets}

/-- The children in a piece are children of the container that are shown. -/
theorem mem_shownIn {children : List Node} {piece : Piece}
    (made : piece ∈ pieces (members options assets children)) {child : Node × Nat}
    (inside : child ∈ piece.shown) : child ∈ shownIn children := by
  rw [← flatMap_shown_members options assets children]
  exact List.mem_flatMap_of_mem made inside

/-- What is collected from the boxes of masks as from what is in them is collected from a container
as from its children that are shown. -/
theorem flatMap_childSketches {α : Type} {collect : Sketch → List α} {each : Node × Nat → List α}
    {parent : Layer} {container : Container}
    (isContainer : Container.ofLayer? parent = some container) {children : List Node}
    (child : ∀ child ∈ shownIn children, ∀ slot,
      collect (drawn options assets child.1 slot) = each child)
    (box : ∀ clip style inside, collect (.masked clip style inside) = inside.flatMap collect) :
    (childSketches options parent (members options assets children)).flatMap collect =
      (shownIn children).flatMap each := by
  rw [childSketches_eq options assets isContainer, List.flatMap_map,
    ← flatMap_shown_members options assets children, List.flatMap_assoc]
  refine List.flatMap_congr fun piece made => ?_
  have inside : ∀ node ∈ piece.shown, ∀ slot,
      collect (drawn options assets node.1 slot) = each node :=
    fun node shown => child node (mem_shownIn made shown)
  cases piece with
  | own node index =>
    rw [Piece.sketch, inside (node, index) (List.mem_singleton_self _), Piece.shown,
      List.flatMap_singleton]
  | wrapper mask i covered =>
    rw [Piece.sketch, box, Piece.contents, List.flatMap_map]
    exact List.flatMap_congr fun node shown => inside node shown _

/-- What holds of every child that is shown, and of the box of a mask around such, holds of
everything in a container. -/
theorem forall_mem_childSketches {motive : Sketch → Prop} {children : List Node}
    (child : ∀ child ∈ shownIn children, ∀ slot, motive (drawn options assets child.1 slot))
    (box : ∀ mask container order inside, (∀ sketch ∈ inside, motive sketch) →
      motive (.masked (clipRequest? options mask) (Position.maskSlot options mask container order)
        inside)) (parent : Layer) :
    ∀ sketch ∈ childSketches options parent (members options assets children), motive sketch := by
  intro sketch mem
  cases isContainer : Container.ofLayer? parent with
  | none =>
    rw [childSketches, isContainer] at mem
    cases mem
  | some container =>
    rw [childSketches_eq options assets isContainer] at mem
    obtain ⟨piece, made, rfl⟩ := List.mem_map.1 mem
    have inside : ∀ node ∈ piece.shown, ∀ slot, motive (drawn options assets node.1 slot) :=
      fun node shown => child node (mem_shownIn made shown)
    cases piece with
    | own node index => exact inside (node, index) (List.mem_singleton_self _) _
    | wrapper mask i covered =>
      refine box _ _ _ _ fun sketch drawnInside => ?_
      obtain ⟨node, shown, rfl⟩ := List.mem_map.1 drawnInside
      exact inside node shown _

/-- **Induction on what is drawn.** What holds of faults, of leaves, of the boxes of masks and of
containers around such, holds of every node in every slot. -/
theorem drawn_induct {motive : Sketch → Prop} (fault : ∀ id, motive (.fault id))
    (container : ∀ layer inside slot,
      (∀ sketch ∈ childSketches options layer inside, motive sketch) →
      motive (containerSketch options layer inside slot))
    (masked : ∀ mask container order inside, (∀ sketch ∈ inside, motive sketch) →
      motive (.masked (clipRequest? options mask) (Position.maskSlot options mask container order)
        inside))
    (text : ∀ layer text slot, motive (textSketch options layer text slot))
    (box : ∀ layer slot, motive (boxSketch options layer slot))
    (picture : ∀ layer asset slot, motive (pictureSketch options layer asset slot)) (node : Node) :
    ∀ slot, motive (drawn options assets node slot) := by
  induction node using Node.induct with
  | mk layer children ih =>
    intro slot
    have inside : ∀ sketch ∈ childSketches options layer (members options assets children),
        motive sketch :=
      forall_mem_childSketches
        (fun child mem => ih child.1 (Scene.mem_children_of_mem_shownIn mem)) masked layer
    rw [drawn, Node.layer_mk, Node.children_mk, layerSketch]
    split
    · exact fault layer.id
    · split
      · exact container layer _ slot inside
      · exact container layer _ slot inside
      · exact text layer _ slot
      · exact box layer slot
      · exact picture layer _ slot
      · exact picture layer _ slot

/-! ### Members that look alike -/

/-- Two members that are masks alike and look alike below the root. What cannot be seen of them may
differ. -/
structure Member.LooksAlike (member member' : Member) : Prop where
  isMask : member'.isMask = member.isMask
  visible : member'.node.layer.visible = member.node.layer.visible
  layer : member.node.layer.visible = true → member'.node.layer = member.node.layer
  draw : ∀ slot, slot ≠ .root → member'.draw slot = member.draw slot
  hidden : member.node.layer.visible = false → ∀ slot, slot ≠ .root → member.draw slot = none

theorem Member.LooksAlike.isActiveMask {member member' : Member}
    (alike : member.LooksAlike member') : member'.isActiveMask = member.isActiveMask := by
  rw [Member.isActiveMask, alike.isMask, alike.visible, Member.isActiveMask]

/-- Clusters of members that look alike look alike. -/
theorem clusterSketch?_of_looksAlike {cluster cluster' : Cluster}
    (related : cluster.Related Member.LooksAlike cluster') (parent : Layer) (container : Container)
    (count : Nat) :
    clusterSketch? options parent container count cluster' =
      clusterSketch? options parent container count cluster := by
  cases related with
  | @single index member member' alike =>
    rw [clusterSketch?, clusterSketch?, alike.draw _ (by simp)]
    cases visible : member.node.layer.visible with
    | true => rw [alike.layer visible]
    | false => rw [alike.hidden visible _ (by simp), alike.hidden visible _ (by simp)]
  | @run first mask mask' covered covered' alike active each =>
    have sameMask : mask'.node.layer = mask.node.layer :=
      alike.layer (Bool.and_eq_true_iff.1 active).2
    have drawn : (covered'.zipIdx.filterMap fun (member, index) =>
          member.draw (.child (.ofMask mask.node.layer) .absolute index covered'.length)) =
        covered.zipIdx.filterMap fun (member, index) =>
          member.draw (.child (.ofMask mask.node.layer) .absolute index covered.length) := by
      rw [each.length_eq]
      refine filterMap_eq_of_forall₂ ?_ (forall₂_zipIdx each 0)
      rintro ⟨member, index⟩ ⟨member', _⟩ ⟨alike, rfl⟩
      exact alike.draw _ (by simp)
    rw [clusterSketch?, clusterSketch?, runSketch, runSketch, sameMask, drawn]

/-- **Containers look alike if their members do.** -/
theorem childSketches_of_looksAlike {all all' : List Member}
    (each : List.Forall₂ Member.LooksAlike all all') (parent : Layer) :
    childSketches options parent all' = childSketches options parent all := by
  rw [childSketches, childSketches]
  cases Container.ofLayer? parent with
  | none => rfl
  | some container =>
    have related :
        List.Forall₂ (Cluster.Related Member.LooksAlike) (clusters all) (clusters all') :=
      forall₂_clusters Member.LooksAlike.isMask Member.LooksAlike.isActiveMask each
    rw [← each.length_eq]
    refine filterMap_eq_of_forall₂ (fun cluster cluster' alike => ?_) related
    exact clusterSketch?_of_looksAlike alike parent container all.length

/-- A node that is hidden is drawn nowhere below the root. -/
theorem sketch_of_hidden {node : Node} (hidden : node.layer.visible = false) {slot : Slot}
    (child : slot ≠ .root) : sketch options assets node slot = none := by
  rw [sketch_child options assets node child, Node.isShown, hidden]
  rfl

/-- Containers look alike if the children that are shown in them do. -/
theorem childSketches_congr {assets' : Assets} {children : List Node}
    (same : ∀ child ∈ shownIn children, ∀ slot,
      drawn options assets' child.1 slot = drawn options assets child.1 slot) (parent : Layer) :
    childSketches options parent (members options assets' children) =
      childSketches options parent (members options assets children) := by
  refine childSketches_of_looksAlike ?_ parent
  rw [members_eq_map, members_eq_map, List.forall₂_map_left_iff, List.forall₂_map_right_iff,
    List.forall₂_same]
  intro node mem
  refine ⟨rfl, rfl, fun _ => rfl, fun slot child => ?_, fun hidden slot child => ?_⟩
  · change sketch options assets' node slot = sketch options assets node slot
    rw [sketch_child options assets' node child, sketch_child options assets node child]
    by_cases isShown : node.isShown = true
    · have shown : node ∈ (shownIn children).map Prod.fst := by
        rw [Scene.map_fst_shownIn]
        exact List.mem_filter.2 ⟨mem, isShown⟩
      obtain ⟨⟨_, index⟩, inside, rfl⟩ := List.mem_map.1 shown
      rw [same _ inside slot]
    · rw [if_neg isShown, if_neg isShown]
  · exact sketch_of_hidden hidden child

/-- A node looks alike if what is in it does, and if the same stands for its picture. -/
theorem layerSketch_congr {assets' : Assets} {layer : Layer} {all all' : List Member}
    (inside : layer.isContainer = true →
      childSketches options layer all' = childSketches options layer all)
    (stands : layer.isVectorLike = true → assets'.find layer.id = assets.find layer.id)
    (slot : Slot) :
    layerSketch options assets' layer all' slot = layerSketch options assets layer all slot := by
  rw [layerSketch, layerSketch]
  unfold Layer.isContainer at inside
  unfold Layer.isVectorLike at stands
  cases kind : layer.kind with
  | frame frame => simp only [containerSketch, inside (by rw [kind])]
  | group => simp only [containerSketch, inside (by rw [kind])]
  | text text => rfl
  | rectangle => rfl
  | ellipse => simp only [stands (by rw [kind])]
  | vector => simp only [stands (by rw [kind])]

end SceneMarkup.Emission
