import SceneMarkup.Proofs.Emission.Slots
import SceneMarkup.Proofs.Position.Offsets

/-!
# Offsets add up

From the root down to a node there is a chain of boxes, each placed in the one before it: the boxes
of the nodes above the node, with the box of a mask in between wherever a mask covers the next one.

* `CountsFrom`: a node of a tree, and where its coordinates count from;
* `Boxes`: the boxes from the root down to a node, each with the container that it is placed in;
* `Slotted.boxes`: what emission meets is placed by such a chain;
* `Boxes.telescope`: along it the offsets add up to the place of the node relative to the root;
* `offsets_telescope`: so all offsets of a tree that is surveyed are differences of places, and add
  up.
-/

namespace SceneMarkup.Emission

open Position (Container DenotesBoth corner innerOrigin isCharted isSurveyed offset)
open Scene (Layer Node Visit shownIn)

/-! ### Where nodes count from -/

/-- A node of a tree with its address, and where its coordinates count from, if those of the root
count from a base. -/
inductive CountsFrom (root : Node) (base : Int × Int) : Visit → Int × Int → Prop
  | root : CountsFrom root base ([], root) base
  | child {way : List Nat} {parent : Node} {origin : Int × Int} {child : Node × Nat}
      (above : CountsFrom root base (way, parent) origin)
      (isContainer : parent.layer.isContainer = true) (inside : child ∈ parent.children.zipIdx) :
      CountsFrom root base (child.2 :: way, child.1) (innerOrigin origin parent.layer)

variable {options : Options} {root : Node} {base : Int × Int}

/-- An address is that of one node, which counts from one origin. -/
theorem CountsFrom.unique {visit : Visit} {origin : Int × Int}
    (h : CountsFrom root base visit origin) :
    ∀ {visit' origin'}, CountsFrom root base visit' origin' → visit.1 = visit'.1 →
      visit = visit' ∧ origin = origin' := by
  induction h with
  | root =>
    rintro visit' origin' (_ | _) same
    · exact ⟨rfl, rfl⟩
    · cases same
  | child _ _ inside ih =>
    rintro visit' origin' (_ | ⟨above', -, inside'⟩) same
    · cases same
    · obtain ⟨index, way⟩ := List.cons.inj same
      obtain ⟨parent, rfl⟩ := ih above' way
      cases parent
      rw [Scene.eq_of_mem_zipIdx inside inside' index]
      exact ⟨rfl, rfl⟩

/-- Every node of a tree that is surveyed is, from where it counts. -/
theorem CountsFrom.surveyed_below (surveyed : isSurveyed options root base = true) {visit : Visit}
    {origin : Int × Int} (h : CountsFrom root base visit origin) :
    isSurveyed options visit.2 origin = true := by
  induction h with
  | root => exact surveyed
  | child _ isContainer inside ih =>
    exact Position.isSurveyed_of_mem ih isContainer (List.fst_mem_of_mem_zipIdx inside)

/-! ### Chains of boxes -/

/-- The boxes from the root down to a node, each with the container that it is placed in. A child
that a mask covers is placed in the box of the mask, and that in the container of both. -/
inductive Boxes (root : Node) : Visit → List (Layer × Container) → Prop
  | root : Boxes root ([], root) []
  | own {way : List Nat} {parent : Node} {boxes : List (Layer × Container)} {container : Container}
      {child : Node × Nat} (above : Boxes root (way, parent) boxes)
      (isContainer : Container.ofLayer? parent.layer = some container)
      (shown : child ∈ shownIn parent.children) (alone : ∀ i, ¬ Covers parent.children i child.2) :
      Boxes root (child.2 :: way, child.1) (boxes ++ [(child.1.layer, container)])
  | covered {way : List Nat} {parent : Node} {boxes : List (Layer × Container)}
    {container : Container}
      {child : Node × Nat} {mask : Node} {i : Nat} (above : Boxes root (way, parent) boxes)
      (isContainer : Container.ofLayer? parent.layer = some container)
      (shown : child ∈ shownIn parent.children) (isMask : (mask, i) ∈ parent.children.zipIdx)
      (covers : Covers parent.children i child.2) :
      Boxes root (child.2 :: way, child.1)
        (boxes ++ [(mask.layer, container), (child.1.layer, .ofMask mask.layer)])

/-- What emission meets is placed by a chain of boxes, and last in the container of its slot. -/
theorem Slotted.boxes {visit : Visit} {slot : Slot} (met : Slotted [] root .root visit slot) :
    ∃ boxes, Boxes root visit boxes ∧ ∀ container placement index count,
      slot = .child container placement index count →
        boxes.getLast? = some (visit.2.layer, container) := by
  induction met with
  | start => exact ⟨[], .root, fun _ _ _ _ atRoot => by cases atRoot⟩
  | child _ shown slotIn ih =>
    obtain ⟨boxes, above, -⟩ := ih
    cases slotIn with
    | own isContainer alone =>
      refine ⟨_, .own above isContainer shown alone, ?_⟩
      rintro _ _ _ _ ⟨⟩
      exact List.getLast?_concat
    | covered isContainer isMask covers =>
      refine ⟨_, .covered above isContainer shown isMask covers, ?_⟩
      rintro _ _ _ _ ⟨⟩
      simp

/-! ### Offsets -/

/-- The offset of a child in its container. -/
theorem CountsFrom.offset_inContainer (surveyed : isSurveyed options root base = true)
    {way : List Nat} {parent : Node} {origin : Int × Int}
    (counts : CountsFrom root base (way, parent) origin) {container : Container}
    (isContainer : Container.ofLayer? parent.layer = some container) {child : Node}
    (inside : child ∈ parent.children) :
    DenotesBoth (offset options child.layer container)
      (corner (innerOrigin origin parent.layer) child.layer - corner origin parent.layer) := by
  have here := counts.surveyed_below surveyed
  have below := Position.isSurveyed_of_mem here (isContainer_iff.2 ⟨container, isContainer⟩) inside
  exact (Position.standsAt_ofLayer? (Position.isCharted_of_isSurveyed here) isContainer).offset
    (Position.isCharted_of_isSurveyed below)

/-- The offset of a child in the box of a mask beside it. -/
theorem CountsFrom.offset_inMask (surveyed : isSurveyed options root base = true)
    {way : List Nat} {parent : Node} {origin : Int × Int}
    (counts : CountsFrom root base (way, parent) origin)
    (isContainer : parent.layer.isContainer = true) {mask child : Node}
    (isMask : mask ∈ parent.children) (inside : child ∈ parent.children) :
    DenotesBoth (offset options child.layer (.ofMask mask.layer))
      (corner (innerOrigin origin parent.layer) child.layer -
        corner (innerOrigin origin parent.layer) mask.layer) := by
  have here := counts.surveyed_below surveyed
  have ofMask := Position.isSurveyed_of_mem here isContainer isMask
  have ofChild := Position.isSurveyed_of_mem here isContainer inside
  exact (Position.standsAt_ofMask (Position.isCharted_of_isSurveyed ofMask)).offset
    (Position.isCharted_of_isSurveyed ofChild)

/-- Whole numbers that the offsets of boxes are, one by one. -/
def Measure (options : Options) (boxes : List (Layer × Container))
    (steps : List (Int × Int)) : Prop :=
  List.Forall₂ (fun box step => DenotesBoth (offset options box.1 box.2) step) boxes steps

/-- Along a chain of boxes the offsets add up to the place of the node relative to the root. -/
theorem Boxes.telescope (surveyed : isSurveyed options root base = true) {visit : Visit}
    {boxes : List (Layer × Container)} (chain : Boxes root visit boxes) :
    ∃ origin, CountsFrom root base visit origin ∧ ∃ steps, Measure options boxes steps ∧
      steps.sum = corner origin visit.2.layer - corner base root.layer := by
  induction chain with
  | root => exact ⟨base, .root, [], .nil, (sub_self _).symm⟩
  | own above isContainer shown alone ih =>
    obtain ⟨origin, counts, steps, measure, total⟩ := ih
    have inside := (List.mem_filter.1 shown).1
    refine ⟨_, .child counts (isContainer_iff.2 ⟨_, isContainer⟩) inside, ?_⟩
    have last := counts.offset_inContainer surveyed isContainer (List.fst_mem_of_mem_zipIdx inside)
    refine ⟨_, List.rel_append measure (.cons last .nil), ?_⟩
    rw [List.sum_append, total, List.sum_singleton, add_comm, sub_add_sub_cancel]
  | covered above isContainer shown isMask covers ih =>
    obtain ⟨origin, counts, steps, measure, total⟩ := ih
    have inside := (List.mem_filter.1 shown).1
    have goes := isContainer_iff.2 ⟨_, isContainer⟩
    refine ⟨_, .child counts goes inside, ?_⟩
    have maskInside := List.fst_mem_of_mem_zipIdx isMask
    -- First to the box of the mask, and from there to the child.
    have first := counts.offset_inContainer surveyed isContainer maskInside
    have last := counts.offset_inMask surveyed goes maskInside (List.fst_mem_of_mem_zipIdx inside)
    refine ⟨_, List.rel_append measure (.cons first (.cons last .nil)), ?_⟩
    rw [List.sum_append, total, List.sum_cons, List.sum_singleton, add_comm,
      add_comm (_ - _) (_ - _), sub_add_sub_cancel, sub_add_sub_cancel]

/-- How the offsets of a tree add up, whose root counts from a base. -/
structure OffsetsTelescope (options : Options) (root : Node) (base : Int × Int) : Prop where
  /-- The offset of a child in its container is the difference of their places, -/
  inContainer : ∀ way parent origin container, CountsFrom root base (way, parent) origin →
    Container.ofLayer? parent.layer = some container → ∀ child ∈ parent.children,
      DenotesBoth (offset options child.layer container)
        (corner (innerOrigin origin parent.layer) child.layer - corner origin parent.layer)
  /-- and so is that of a child in the box of a mask beside it. -/
  inMask : ∀ way parent origin, CountsFrom root base (way, parent) origin →
    parent.layer.isContainer = true → ∀ mask ∈ parent.children, ∀ child ∈ parent.children,
      DenotesBoth (offset options child.layer (.ofMask mask.layer))
        (corner (innerOrigin origin parent.layer) child.layer -
          corner (innerOrigin origin parent.layer) mask.layer)
  /-- Along the boxes down to a node they add up to the place of the node relative to the root, -/
  alongBoxes : ∀ visit boxes origin, Boxes root visit boxes → CountsFrom root base visit origin →
    ∃ steps, Measure options boxes steps ∧
      steps.sum = corner origin visit.2.layer - corner base root.layer
  /-- and everything that emission meets is placed by such boxes. -/
  placed : ∀ visit slot, Slotted [] root .root visit slot →
    ∃ boxes origin, Boxes root visit boxes ∧ CountsFrom root base visit origin ∧
      ∀ container placement index count, slot = .child container placement index count →
        boxes.getLast? = some (visit.2.layer, container)

/-- **Offsets telescope through any nesting.** -/
theorem offsets_telescope (surveyed : isSurveyed options root base = true) :
    OffsetsTelescope options root base where
  inContainer _ _ _ _ counts isContainer _ inside :=
    counts.offset_inContainer surveyed isContainer inside
  inMask _ _ _ counts isContainer _ isMask _ inside :=
    counts.offset_inMask surveyed isContainer isMask inside
  alongBoxes visit boxes origin chain counts := by
    obtain ⟨origin', counts', total⟩ := chain.telescope surveyed
    rwa [(counts.unique counts' rfl).2]
  placed visit slot met := by
    obtain ⟨boxes, chain, last⟩ := met.boxes
    obtain ⟨origin, counts, -⟩ := chain.telescope surveyed
    exact ⟨boxes, origin, chain, counts, last⟩

/-- A frame around nested groups, with a mask in the inner one. Of the boxes in the document some
are known and some are not. -/
def nestedGroups : Node :=
  let box (x y : Single) : Scene.Bounds := { x, y, width := 10, height := 10 }
  .mk { id := "8:1", kind := .frame {}, x := 100, y := 50, bounds := some (box 100 50) }
    [.mk { id := "8:2", kind := .group, x := 10, y := 20, bounds := some (box 110 70) }
      [.mk { id := "8:3", kind := .group, x := 12, y := 22 }
        [.mk { id := "8:4", kind := .rectangle, isMask := true, x := 14, y := 24,
               bounds := some (box 114 74) } [],
          .mk { id := "8:5", kind := .ellipse, x := 15, y := 25, bounds := some (box 115 75) } [],
          .mk { id := "8:6", kind := .rectangle, x := -16, y := 26 } []]]]

theorem nestedGroups_telescope :
    isSurveyed {} nestedGroups (0, 0) = true ∧ OffsetsTelescope {} nestedGroups (0, 0) := by
  have surveyed : isSurveyed {} nestedGroups (0, 0) = true := by decide +kernel
  exact ⟨surveyed, offsets_telescope surveyed⟩

end SceneMarkup.Emission
