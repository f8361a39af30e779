import SceneMarkup.Proofs.Emission.Composition
import SceneMarkup.Proofs.Emission.Masking
import SceneMarkup.Proofs.Emission.Parts

/-!
# Stacking

Every box in a container has one `z-index`, and these follow the order of the document.

* `Layer.stacksInReverse`, `stackingOrder_lt_iff`: later siblings lie above earlier ones, or below
  them;
* `zIndex_drawn`, `zIndex_maskSlot`: a child and the box of a mask have the one `z-index` of their
  place;
* `Piece.index`, `sublist_index_pieces`: the places of the pieces of a container are some of its
  places, in order;
* `stacking_follows_document_order`: so the boxes of a container are stacked in document order;
* `stacking_inside_masks`: inside the box of a mask the later siblings always lie above, in a frame
  that stacks in reverse, too.
-/

namespace SceneMarkup

open Css (Declaration DeclaresOnly declaresOnly_append declaresOnly_cons declaresOnly_ite
  declaresOnly_nil declaresOnly_singleton lastOfEach not_declares_of_declaresOnly valuesOf
  valuesOf_append valuesOf_cons valuesOf_eq_nil_iff valuesOf_lastOfEach_of_eq_singleton)
open Scene (Layer Node)

/-- A frame that stacks its children in reverse: earlier ones lie above later ones. -/
def Scene.Layer.stacksInReverse (layer : Layer) : Bool :=
  layer.frame?.any Scene.Frame.reversedStacking

namespace Position

/-! ### The order of siblings -/

/-- Earlier siblings lie above later ones. -/
def ContainerKind.stacksInReverse : ContainerKind → Bool
  | .frame _ reversed => reversed
  | .group | .mask => false

/-- A later sibling lies above an earlier one, unless its container stacks in reverse. -/
theorem stackingOrder_lt_iff {kind : ContainerKind} (forward : kind.stacksInReverse = false)
    (index index' count : Int) :
    stackingOrder kind index count < stackingOrder kind index' count ↔ index < index' := by
  cases kind with
  | frame flow reversed =>
    obtain rfl : reversed = false := forward
    simp only [stackingOrder]
    omega
  | group => rfl
  | mask => rfl

/-- In a container that stacks in reverse an earlier sibling lies above a later one. -/
theorem stackingOrder_lt_iff_of_stacksInReverse {kind : ContainerKind}
    (reverse : kind.stacksInReverse = true) (index index' count : Int) :
    stackingOrder kind index count < stackingOrder kind index' count ↔ index' < index := by
  cases kind with
  | frame flow reversed =>
    obtain rfl : reversed = true := reverse
    simp only [stackingOrder]
    omega
  | group => cases reverse
  | mask => cases reverse

theorem stacksInReverse_of_ofLayer? {parent : Layer} {container : Container}
    (isContainer : Container.ofLayer? parent = some container) :
    container.kind.stacksInReverse = parent.stacksInReverse := by
  unfold Container.ofLayer? at isContainer
  unfold Scene.Layer.stacksInReverse Layer.frame?
  cases kind : parent.kind <;> simp only [kind] at isContainer ⊢ <;> cases isContainer <;> rfl

/-- The children of a frame begin at one. -/
theorem stackingOrder_frame_bounds (flow reversed : Bool) {index count : Nat}
    (inside : index < count) :
    1 ≤ stackingOrder (.frame flow reversed) index count ∧
      stackingOrder (.frame flow reversed) index count ≤ count := by
  cases reversed <;> simp only [stackingOrder] <;> omega

/-! ### The `z-index` of what is placed -/

/-- Everything but its `z-index` in what places a node. -/
def movingProperties : List String :=
  ["position", "left", "right", "top", "bottom", "transform-origin", "transform", "margin"]

/-- What places a node ends with its `z-index`. -/
theorem placeAt_eq_concat (layer : Layer) (container : Container) (offset : Single × Single)
    (order : Int) (rotated : Bool) :
    ∃ front, placeAt layer container offset order rotated = front ++ [⟨"z-index", toString order⟩] ∧
      DeclaresOnly movingProperties front := by
  have anchored : ∀ axis constraint offset size extent, DeclaresOnly movingProperties
      (anchor axis constraint offset size extent).declarations :=
    fun axis _ _ _ _ => (edges_anchor axis _ _ _ _).mono (by cases axis <;> decide)
  refine ⟨_, rfl, ?_⟩
  simp only [declaresOnly_append]
  refine ⟨⟨⟨?_, ?_⟩, ?_⟩, ?_⟩
  · exact declaresOnly_ite declaresOnly_nil (declaresOnly_singleton.2 (by decide))
  · split
    · exact declaresOnly_nil
    · simp only [List.flatMap_cons, List.flatMap_nil, List.append_nil, declaresOnly_append]
      exact ⟨anchored _ _ _ _ _, anchored _ _ _ _ _⟩
  · exact declaresOnly_ite (declaresOnly_singleton.2 (by decide)) declaresOnly_nil
  · exact declaresOnly_ite declaresOnly_nil (declaresOnly_singleton.2 (by decide))

/-- What moves a node does not stack it. -/
theorem valuesOf_zIndex_eq_nil {front : List Declaration}
    (moves : DeclaresOnly movingProperties front) :
    valuesOf front "z-index" = [] :=
  valuesOf_eq_nil_iff.2 (not_declares_of_declaresOnly moves (by decide))

theorem zIndex_placeAt (layer : Layer) (container : Container) (offset : Single × Single)
    (order : Int) (rotated : Bool) :
    valuesOf (placeAt layer container offset order rotated) "z-index" = [toString order] := by
  obtain ⟨front, same, moves⟩ := placeAt_eq_concat layer container offset order rotated
  simp [same, valuesOf_zIndex_eq_nil moves, valuesOf_cons]

theorem zIndex_rotatedSlot (options : Options) (layer : Layer) (container : Container)
    (order : Int) :
    valuesOf (rotatedSlot options layer container order) "z-index" = [toString order] := by
  have margin : DeclaresOnly movingProperties (if container.hasInFlow layer then
      insetMargin (rotationInset layer) else []) :=
    declaresOnly_ite (declaresOnly_ite declaresOnly_nil (declaresOnly_singleton.2 (by decide)))
      declaresOnly_nil
  simp only [rotatedSlot, valuesOf_append, valuesOf_zIndex_eq_nil margin, List.nil_append]
  exact zIndex_placeAt layer container _ order false

theorem zIndex_maskSlot (options : Options) (mask : Layer) (container : Container) (order : Int) :
    valuesOf (maskSlot options mask container order) "z-index" = [toString order] := by
  simp [maskSlot, valuesOf_cons]

end Position

namespace Emission

open Picture (Asset Assets)
open Position (Container ContainerKind stackingOrder)

variable {options : Options} {assets : Assets}

/-- To be a box for something does not stack a node. -/
theorem zIndex_anchoring (style : List Declaration) :
    valuesOf (anchoring style) "z-index" = valuesOf style "z-index" := by
  unfold anchoring
  split
  · rfl
  · simp [valuesOf_cons]

/-- A node that can be placed has the one `z-index` of its place. -/
theorem zIndex_drawn {node : Node} (sound : isFaulty node.layer = false) (container : Container)
    (placement : Layout.Placement) (index count : Nat) :
    valuesOf (drawn options assets node (.child container placement index count)).style "z-index" =
      [toString (stackingOrder container.kind index count)] := by
  by_cases turned :
    (node.layer.isVectorLike && node.layer.isRotated options.rotationTolerance) = true
  · obtain ⟨picture, rotated⟩ := Bool.and_eq_true_iff.1 turned
    cases node with
    | mk layer children =>
      rw [Node.layer_mk] at sound picture rotated
      rw [drawn_of_isVectorLike sound picture, pictureSketch, if_pos rotated, rotatedPicture,
        Sketch.style]
      -- The size of the box stands behind its place.
      refine valuesOf_lastOfEach_of_eq_singleton ?_
      rw [valuesOf_append, zIndex_anchoring, rotatedSlotStyle, Position.zIndex_rotatedSlot]
      simp [Position.rotatedOuter, valuesOf_cons]
  · obtain ⟨head, inside, same, box⟩ : ∃ head inside,
        drawn options assets node (.child container placement index count) = .element head inside ∧
          IsBox options node.layer (.child container placement index count) head :=
      isBox_drawn sound (Bool.eq_false_iff.2 turned) _
    have placed :
        valuesOf (positionStyle options node.layer (.child container placement index count))
        "z-index" = [toString (stackingOrder container.kind index count)] :=
      Position.zIndex_placeAt _ _ _ _ _
    rw [same, Sketch.style]
    rcases box.style with style | style
    · rw [style]
      exact valuesOf_lastOfEach_of_eq_singleton placed
    · rw [style]
      exact valuesOf_lastOfEach_of_eq_singleton ((zIndex_anchoring _).trans placed)

/-! ### The places of pieces -/

/-- The place of a piece among the children of its container: that of the child, or for the box of a
mask that of the sibling behind the mask. -/
def Piece.index : Piece → Nat
  | own _ index => index
  | wrapper _ maskIndex _ => maskIndex + 1

/-- The piece of a cluster stands where the first child of the cluster does. -/
theorem sublist_index_piece? {all : List Member} {cluster : Cluster}
    (mem : cluster ∈ clusters all) :
    (cluster.piece?.toList.map Piece.index).Sublist (cluster.indexed.map Prod.snd) := by
  cases made : cluster.piece? with
  | none => exact List.nil_sublist _
  | some piece =>
    cases piece with
    | own child index =>
      unfold Cluster.piece? at made
      cases cluster <;> simp_all [Cluster.piece, Cluster.indexed, Piece.index]
    | wrapper mask i covered =>
      obtain ⟨member, rest, indexed⟩ := indexed_of_wrapper mem made
      simp [indexed, Piece.index]

/-- The places of the pieces of a container are some of its places, in order. -/
theorem sublist_index_pieces (all : List Member) :
    ((pieces all).map Piece.index).Sublist (List.range all.length) := by
  have places : (all.zipIdx.map Prod.snd) = List.range all.length := by
    rw [List.zipIdx_map_snd, List.range_eq_range']
  rw [← places, ← flatMap_indexed_clusters, pieces]
  have each : ∀ cluster ∈ clusters all,
      (cluster.piece?.toList.map Piece.index).Sublist (cluster.indexed.map Prod.snd) :=
    fun _ mem => sublist_index_piece? mem
  generalize clusters all = parts at each
  induction parts with
  | nil => exact .slnil
  | cons cluster rest ih =>
    obtain ⟨first, others⟩ := List.forall_mem_cons.1 each
    rw [List.filterMap_eq_flatMap_toList, List.flatMap_cons, List.flatMap_cons, List.map_append,
      List.map_append, ← List.filterMap_eq_flatMap_toList]
    exact first.append (ih others)

theorem pairwise_index_pieces (all : List Member) :
    ((pieces all).map Piece.index).Pairwise (· < ·) :=
  List.pairwise_lt_range.sublist (sublist_index_pieces all)

theorem index_lt_of_mem_pieces {all : List Member} {piece : Piece} (made : piece ∈ pieces all) :
    piece.index < all.length :=
  List.mem_range.1 ((sublist_index_pieces all).subset (List.mem_map_of_mem made))

/-! ### Boxes in a container -/

/-- A box has the one `z-index` of an order. -/
def HasOrder (order : Int) (markup : Markup) : Prop :=
  valuesOf markup.style "z-index" = [toString order]

/-- A child that has markup has the one `z-index` of its place. -/
theorem hasOrder_of_drawn {node : Node} {container : Container} {placement : Layout.Placement}
    {index count : Nat} {markup : Markup}
    (named : (drawn options assets node (.child container placement index count)).NamedAs markup) :
    HasOrder (stackingOrder container.kind index count) markup := by
  have sound : isFaulty node.layer = false := by
    refine Bool.eq_false_iff.2 fun faulty => ?_
    cases node with
    | mk layer children =>
      rw [Node.layer_mk] at faulty
      rw [drawn_of_isFaulty faulty] at named
      exact Sketch.descends_namedAs.fault named
  rw [HasOrder, (Sketch.descends_namedAs.style_children named).1]
  exact zIndex_drawn sound container placement index count

/-- A piece that has markup has the one `z-index` of its place. -/
theorem hasOrder_of_piece {parent : Layer} {container : Container} {children : List Node}
    {piece : Piece} {markup : Markup}
    (named : (piece.sketch options assets parent container children).NamedAs markup) :
    HasOrder (stackingOrder container.kind piece.index children.length) markup := by
  cases piece with
  | own child index => exact hasOrder_of_drawn named
  | wrapper mask i covered =>
    rw [HasOrder, (Sketch.descends_namedAs.style_children named).1]
    exact Position.zIndex_maskSlot options mask.layer container _

/-- How the orders of the boxes of a frame or a group with some children follow each other. -/
structure FollowDocumentOrder (parent : Layer) (count : Nat) (orders : List Int) : Prop where
  ascending : parent.stacksInReverse = false → orders.Pairwise (· < ·)
  descending : parent.stacksInReverse = true → orders.Pairwise (· > ·)
  inFrame : ∀ frame, parent.kind = .frame frame → ∀ order ∈ orders, 1 ≤ order ∧ order ≤ count
  inGroup : parent.kind = .group → ∀ order ∈ orders, 0 ≤ order ∧ order ≤ count - 1

/-- Places in document order are stacked in document order. -/
theorem followDocumentOrder_map {parent : Layer} {container : Container}
    (isContainer : Container.ofLayer? parent = some container) {count : Nat} {places : List Nat}
    (ordered : places.Pairwise (· < ·)) (inside : ∀ index ∈ places, index < count) :
    FollowDocumentOrder parent count
      (places.map fun index : Nat => stackingOrder container.kind index count) := by
  have policy := Position.stacksInReverse_of_ofLayer? isContainer
  unfold Container.ofLayer? at isContainer
  refine ⟨fun forward => ?_, fun reverse => ?_, fun frame kind => ?_, fun kind => ?_⟩
  · rw [List.pairwise_map]
    refine ordered.imp fun {index index'} less => ?_
    rw [Position.stackingOrder_lt_iff (policy.trans forward)]
    omega
  · rw [List.pairwise_map]
    refine ordered.imp fun {index index'} less => ?_
    show stackingOrder container.kind index' count < stackingOrder container.kind index count
    rw [Position.stackingOrder_lt_iff_of_stacksInReverse (policy.trans reverse)]
    omega
  · rw [kind] at isContainer
    obtain rfl := Option.some.inj isContainer
    rw [List.forall_mem_map]
    exact fun index mem => Position.stackingOrder_frame_bounds _ _ (inside index mem)
  · rw [kind] at isContainer
    obtain rfl := Option.some.inj isContainer
    rw [List.forall_mem_map]
    intro index mem
    have bound := inside index mem
    simp only [stackingOrder]
    omega

/-- **The boxes of a container are stacked in document order.** Each of them, the boxes of masks
included, has one `z-index`. From one to the next it grows, in a frame that stacks in reverse it
falls; in a frame it is between one and the number of the children, in a group between zero and one
less. -/
theorem stacking_follows_document_order {options : Options} {assets : Assets} {parent : Layer}
    {container : Container} (isContainer : Container.ofLayer? parent = some container)
    {children : List Node} {sheet sheet' : Sheet} {output : List Markup}
    (named : Sketch.nameAll sheet (childSketches options parent (members options assets children)) =
      (.ok output, sheet')) :
    ∃ orders : List Int, List.Forall₂ HasOrder orders output ∧
      FollowDocumentOrder parent children.length orders := by
  have count : (members options assets children).length = children.length := by
    rw [members_eq_map, List.length_map]
  rw [childSketches_eq options assets isContainer] at named
  refine ⟨((pieces (members options assets children)).map Piece.index).map fun index : Nat =>
    stackingOrder container.kind index children.length, ?_, ?_⟩
  · rw [List.map_map, List.forall₂_map_left_iff]
    exact (List.forall₂_map_left_iff.1 (Sketch.forall₂_of_nameAll named)).imp
      fun piece markup => hasOrder_of_piece
  · refine followDocumentOrder_map isContainer (pairwise_index_pieces _) ?_
    rw [List.forall_mem_map]
    intro piece made
    rw [← count]
    exact index_lt_of_mem_pieces made

/-- A frame that stacks its children in reverse. -/
def reversedFrame : Layer := { id := "0", kind := .frame { reversedStacking := true } }

/-- A mask, the two siblings that it covers, and a child that a hidden mask uncovers. -/
def stackedChildren : List Node :=
  [.mk { id := "1", kind := .rectangle, isMask := true } [],
    .mk { id := "2", kind := .rectangle } [], .mk { id := "3", kind := .ellipse } [],
    .mk { id := "4", kind := .rectangle, isMask := true, visible := false } [],
    .mk { id := "5", kind := .rectangle } []]

theorem exists_nameAll_stackedChildren : ∃ output sheet',
    Sketch.nameAll {} (childSketches {} reversedFrame (members {} {} stackedChildren)) =
      (.ok output, sheet') := by
  have sound :
      Sketch.faultsIn (childSketches {} reversedFrame (members {} {} stackedChildren)) = [] := by
    decide +kernel
  exact Sketch.exists_nameAll_eq sound {}

theorem stacking_of_stackedChildren :
    ∃ output sheet', Sketch.nameAll {} (childSketches {} reversedFrame
        (members {} {} stackedChildren)) = (.ok output, sheet') ∧
      ∃ orders : List Int, List.Forall₂ HasOrder orders output ∧
        FollowDocumentOrder reversedFrame 5 orders := by
  obtain ⟨output, sheet', named⟩ := exists_nameAll_stackedChildren
  exact ⟨output, sheet', named, stacking_follows_document_order rfl named⟩

/-! ### Boxes in the box of a mask -/

/-- The order of the child with an index in the box of a mask: how many siblings are between
them. -/
def orderInBox (maskIndex index : Nat) : Int := ((index - (maskIndex + 1) : Nat) : Int)

/-- How what a mask covers is stacked in its box, if the mask is one of some children of a
container. -/
structure StackedInBox (options : Options) (assets : Assets) (parent : Layer)
    (container : Container) (count maskIndex : Nat) (covered : List (Node × Nat))
    (kids : List Markup) : Prop where
  hasOrder : List.Forall₂ (fun child kid => ShownAs options assets child kid ∧
    HasOrder (orderInBox maskIndex child.2) kid) covered kids
  /-- Two siblings lie above each other as they would in the container. -/
  kept : parent.stacksInReverse = false → ∀ child ∈ covered, ∀ other ∈ covered,
    (orderInBox maskIndex child.2 < orderInBox maskIndex other.2 ↔
      stackingOrder container.kind child.2 count < stackingOrder container.kind other.2 count)
  /-- If the container stacks in reverse, the box turns them over. -/
  turned : parent.stacksInReverse = true → ∀ child ∈ covered, ∀ other ∈ covered,
    (orderInBox maskIndex child.2 < orderInBox maskIndex other.2 ↔
      stackingOrder container.kind other.2 count < stackingOrder container.kind child.2 count)

theorem Piece.opened_wrapper (mask : Node) (maskIndex : Nat) (covered : List (Node × Nat))
    (markup : Markup) : (wrapper mask maskIndex covered).opened markup = markup.children := by
  cases markup <;> rfl

/-- In the box of a mask the siblings are stacked in document order. -/
theorem orderInBox_lt_iff {maskIndex index index' : Nat} (after : maskIndex < index)
    (after' : maskIndex < index') :
    orderInBox maskIndex index < orderInBox maskIndex index' ↔ (index : Int) < index' := by
  unfold orderInBox
  omega

/-- **Masks stack what they cover in document order.** Two siblings in the box of a mask lie above
each other as they would in the container by itself, unless that is a frame that stacks in reverse:
then the one that would lie below lies above. -/
theorem stacking_inside_masks {options : Options} {assets : Assets} {parent : Layer}
    {container : Container} (isContainer : Container.ofLayer? parent = some container)
    {children : List Node} {sheet sheet' : Sheet} {output : List Markup}
    (named : Sketch.nameAll sheet (childSketches options parent (members options assets children)) =
      (.ok output, sheet')) :
    ∃ made : List Piece, Grouped children made ∧
      List.Forall₂ (fun piece markup => ∀ mask i covered, piece = .wrapper mask i covered →
        StackedInBox options assets parent container children.length i covered markup.children)
        made output := by
  have grouped := grouped_pieces (members options assets children)
  rw [map_node_members] at grouped
  have policy := Position.stacksInReverse_of_ofLayer? isContainer
  rw [childSketches_eq options assets isContainer] at named
  refine ⟨_, grouped, ?_⟩
  have each := List.forall₂_map_left_iff.1 (Sketch.forall₂_of_nameAll named)
  refine (forall₂_of_mem each).imp ?_
  rintro _ markup ⟨made, one⟩ mask i covered rfl
  have behind : ∀ child ∈ covered, i < child.2 := fun child mem =>
    (((grouped.holds mask i covered made).2.2 child.1 child.2).1 mem).2.2.1
  refine ⟨?_, fun forward child mem other mem' => ?_, fun reverse child mem other mem' => ?_⟩
  · have inside := Piece.forall₂_opened one
    rw [Piece.opened_wrapper, Piece.contents, List.forall₂_map_left_iff] at inside
    exact inside.imp fun child kid here => ⟨⟨_, by simp [Piece.slot], here⟩, hasOrder_of_drawn here⟩
  · rw [orderInBox_lt_iff (behind child mem) (behind other mem'),
      Position.stackingOrder_lt_iff (policy.trans forward)]
  · rw [orderInBox_lt_iff (behind child mem) (behind other mem'),
      Position.stackingOrder_lt_iff_of_stacksInReverse (policy.trans reverse)]

theorem stacking_inside_mask_of_stackedChildren :
    ∃ output sheet', Sketch.nameAll {} (childSketches {} reversedFrame
        (members {} {} stackedChildren)) = (.ok output, sheet') ∧
      ∃ container, Container.ofLayer? reversedFrame = some container ∧
        ∃ made : List Piece, Grouped stackedChildren made ∧
          List.Forall₂ (fun piece markup => ∀ mask i covered, piece = .wrapper mask i covered →
            StackedInBox {} {} reversedFrame container 5 i covered markup.children)
              made output := by
  obtain ⟨output, sheet', named⟩ := exists_nameAll_stackedChildren
  exact ⟨output, sheet', named, _, rfl, stacking_inside_masks rfl named⟩

/-- In a frame that stacks in reverse the second of five children lies above the third, but in the
box of the mask in front of them it lies below it. -/
theorem later_sibling_above_in_box :
    ∃ container output sheet', Container.ofLayer? reversedFrame = some container ∧
      Sketch.nameAll {} (childSketches {} reversedFrame (members {} {} stackedChildren)) =
        (.ok output, sheet') ∧
      stackingOrder container.kind 2 5 < stackingOrder container.kind 1 5 ∧
      (output.map fun markup => markup.children.map fun kid => valuesOf kid.style "z-index") =
        [[], [["0"], ["1"]], []] := by
  obtain ⟨output, sheet', named⟩ := exists_nameAll_stackedChildren
  refine ⟨_, output, sheet', rfl, named, by decide, ?_⟩
  have shown : (match (Sketch.nameAll {} (childSketches {} reversedFrame
      (members {} {} stackedChildren))).1 with
      | .ok output => output.map fun markup => markup.children.map fun kid =>
          valuesOf kid.style "z-index"
      | .error _ => []) = [[], [["0"], ["1"]], []] := by
    decide +kernel
  rwa [named] at shown

end Emission

end SceneMarkup
