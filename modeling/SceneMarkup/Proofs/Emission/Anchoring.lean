import SceneMarkup.Proofs.Emission.Composition

/-!
# What boxes are placed in

An element that is positioned absolutely is placed in the nearest element around it that is
positioned.

* `IsAbsolute`, `IsAnchor`: an element that is positioned absolutely, and one in which such are
  placed;
* `Sketch.IsAnchored`: in a sketch, every absolute element lies directly in an anchor;
* `isAnchored_drawn`: so it is for everything that is drawn;
* `absolute_boxes_anchored`: so it is for every tree, whose root is never absolute.
-/

namespace SceneMarkup

open Css (Declaration declares declares_iff declares_lastOfEach lastOfEach lastOfEach_subset)
open Scene (Layer Node TextStyle)

/-- Positioned absolutely. -/
def IsAbsolute (style : List Declaration) : Prop := ⟨"position", "absolute"⟩ ∈ style

instance (style : List Declaration) : Decidable (IsAbsolute style) :=
  inferInstanceAs (Decidable (_ ∈ style))

/-- Positioned, and nothing but relatively or absolutely: a box for what is placed in it. -/
def IsAnchor (style : List Declaration) : Prop :=
  declares style "position" = true ∧
    ∀ d ∈ style, d.property = "position" → d.value = "relative" ∨ d.value = "absolute"

theorem IsAnchor.lastOfEach {style : List Declaration} (anchor : IsAnchor style) :
    IsAnchor (lastOfEach style) :=
  ⟨(declares_lastOfEach style "position").trans anchor.1,
    fun d mem => anchor.2 d (lastOfEach_subset style mem)⟩

theorem not_isAbsolute_of_declaresOnly {properties : List String} {style : List Declaration}
    (only : Css.DeclaresOnly properties style) (other : "position" ∉ properties) :
    ¬ IsAbsolute style :=
  fun absolute => other (only _ absolute)

namespace Sketch

/-- Every absolute element in a sketch lies directly in an anchor. -/
def IsAnchored (sketch : Sketch) : Prop :=
  ∀ part ∈ sketch.parts, ∀ child ∈ part.children, IsAbsolute child.style → IsAnchor part.style

theorem isAnchored_element_iff {head : SketchHead} {children : List Sketch} :
    (element head children).IsAnchored ↔
      (∀ child ∈ children, IsAbsolute child.style → IsAnchor head.style) ∧
        ∀ child ∈ children, child.IsAnchored :=
  forall_mem_parts_element

theorem isAnchored_masked_iff {clip : Option Request} {style : List Declaration}
    {children : List Sketch} :
    (masked clip style children).IsAnchored ↔
      (∀ child ∈ children, IsAbsolute child.style → IsAnchor style) ∧
        ∀ child ∈ children, child.IsAnchored :=
  forall_mem_parts_masked

theorem isAnchored_childless {head : SketchHead} : (element head []).IsAnchored :=
  isAnchored_element_iff.2 ⟨fun _ mem => (by cases mem), fun _ mem => by cases mem⟩

theorem isAnchored_fault (id : String) : (fault id).IsAnchored := by
  intro part mem child below
  cases List.mem_singleton.1 mem
  cases below

theorem IsLetters.isAnchored {sketch : Sketch} (letters : sketch.IsLetters) :
    sketch.IsAnchored ∧ ¬ IsAbsolute sketch.style := by
  have unstyled : ¬ IsAbsolute [] := List.not_mem_nil
  cases letters with
  | text content =>
    refine ⟨fun part mem child below => ?_, unstyled⟩
    cases List.mem_singleton.1 mem
    cases below
  | lineBreak =>
    refine ⟨fun part mem child below => ?_, unstyled⟩
    cases List.mem_singleton.1 mem
    cases below

/-- Nothing in a text is absolute. -/
theorem IsContent.isAnchored {sketch : Sketch} {utility : Request}
    (content : sketch.IsContent utility) : sketch.IsAnchored ∧ ¬ IsAbsolute sketch.style := by
  have around : ∀ {head : SketchHead} {children : List Sketch},
      (∀ child ∈ children, child.IsLetters) →
      (element head children).IsAnchored := fun letters =>
    isAnchored_element_iff.2
      ⟨fun child mem absolute => absurd absolute (letters child mem).isAnchored.2,
        fun child mem => (letters child mem).isAnchored.1⟩
  cases content with
  | letters letters => exact letters.isAnchored
  | paragraph _ letters => exact ⟨around letters, List.not_mem_nil⟩
  | segment paints _ letters =>
    exact ⟨around letters, not_isAbsolute_of_declaresOnly paints (by decide)⟩

end Sketch

namespace Emission

open Picture (Asset Assets)
open Position (Container)
open Sketch (isAnchored_element_iff isAnchored_masked_iff)

/-! ### Styles -/

/-- Positioned absolutely, if it is positioned. -/
def AbsoluteIfAny (style : List Declaration) : Prop :=
  ∀ d ∈ style, d.property = "position" → d.value = "absolute"

theorem absoluteIfAny_of_declaresOnly {properties : List String} {style : List Declaration}
    (only : Css.DeclaresOnly properties style) (other : "position" ∉ properties) :
    AbsoluteIfAny style :=
  fun d mem same => absurd (same ▸ only d mem) other

theorem absoluteIfAny_append {a b : List Declaration} (ha : AbsoluteIfAny a)
    (hb : AbsoluteIfAny b) :
    AbsoluteIfAny (a ++ b) :=
  List.forall_mem_append.2 ⟨ha, hb⟩

/-- What is made an anchor is one, if it was absolute or not positioned at all. -/
theorem isAnchor_anchoring {style : List Declaration} (h : AbsoluteIfAny style) :
    IsAnchor (anchoring style) := by
  rw [anchoring]
  split
  · next positioned => exact ⟨positioned, fun d mem same => .inr (h d mem same)⟩
  · refine ⟨by simp [declares], List.forall_mem_cons.2 ⟨fun _ => .inl rfl, ?_⟩⟩
    exact fun d mem same => .inr (h d mem same)

theorem absoluteIfAny_placeAt (layer : Layer) (container : Container) (offset : Single × Single)
    (order : Int) (rotated : Bool) :
    AbsoluteIfAny (Position.placeAt layer container offset order rotated) := by
  have shifts : ∀ anchors, AbsoluteIfAny (Position.shifts layer anchors order rotated) := fun _ =>
    absoluteIfAny_of_declaresOnly (Position.shifting_shifts layer _ order rotated) (by decide)
  have edges : ∀ axis constraint offset size extent,
      AbsoluteIfAny (Position.anchor axis constraint offset size extent).declarations :=
    fun axis _ _ _ _ => absoluteIfAny_of_declaresOnly (Position.edges_anchor _ _ _ _ _)
      (by cases axis <;> decide)
  cases flow : container.hasInFlow layer with
  | true =>
    rw [Position.placeAt_of_hasInFlow flow]
    exact shifts []
  | false =>
    rw [Position.placeAt_of_not_hasInFlow flow]
    refine List.forall_mem_cons.2 ⟨fun _ => rfl, ?_⟩
    exact absoluteIfAny_append (edges _ _ _ _ _) (absoluteIfAny_append (edges _ _ _ _ _) (shifts _))

theorem absoluteIfAny_positionStyle (options : Options) (layer : Layer) (slot : Slot) :
    AbsoluteIfAny (positionStyle options layer slot) := by
  cases slot with
  | root => exact fun _ mem => by cases mem
  | child container placement index count => exact absoluteIfAny_placeAt _ _ _ _ _

theorem absoluteIfAny_rotatedSlotStyle (options : Options) (layer : Layer) (slot : Slot) :
    AbsoluteIfAny (rotatedSlotStyle options layer slot) := by
  cases slot with
  | root => exact fun _ mem => by cases mem
  | child container placement index count =>
    refine absoluteIfAny_append ?_ (absoluteIfAny_placeAt _ _ _ _ _)
    -- A margin is no position.
    refine absoluteIfAny_of_declaresOnly (Css.declaresOnly_ite ?_ Css.declaresOnly_nil)
      (show "position" ∉ ["margin"] by decide)
    exact Css.declaresOnly_ite Css.declaresOnly_nil (Css.declaresOnly_singleton.2 (by decide))

theorem isAnchor_maskSlot (options : Options) (mask : Layer) (container : Container) (order : Int) :
    IsAnchor (Position.maskSlot options mask container order) := by
  refine ⟨by simp [Position.maskSlot, declares], ?_⟩
  simp [Position.maskSlot]

/-! ### What is drawn -/

/-- The outer box of a rotated picture is an anchor. -/
theorem isAnchored_pictureSketch (options : Options) (layer : Layer) (asset : Asset) (slot : Slot) :
    (pictureSketch options layer asset slot).IsAnchored := by
  unfold pictureSketch
  split
  · refine isAnchored_element_iff.2 ⟨fun _ _ _ => ?_, fun child mem => ?_⟩
    · have outer := isAnchor_anchoring (absoluteIfAny_rotatedSlotStyle options layer slot)
      refine IsAnchor.lastOfEach ⟨?_, ?_⟩
      · obtain ⟨d, mem, same⟩ := declares_iff.1 outer.1
        exact declares_iff.2 ⟨d, List.mem_append_left _ mem, same⟩
      · refine List.forall_mem_append.2 ⟨outer.2, ?_⟩
        simp [Position.rotatedOuter]
    · rw [List.mem_singleton.1 mem]
      exact Sketch.isAnchored_childless
  · exact Sketch.isAnchored_childless

theorem isAnchored_textSketch (options : Options) (layer : Layer) (text : TextStyle) (slot : Slot) :
    (textSketch options layer text slot).IsAnchored := by
  have content := fun child mem =>
    (Typography.isContent_textContent options text child mem).isAnchored
  exact isAnchored_element_iff.2
    ⟨fun child mem absolute => absurd absolute (content child mem).2,
      fun child mem => (content child mem).1⟩

/-- A container with something in it is an anchor. -/
theorem isAnchored_containerSketch {options : Options} {layer : Layer} {inside : List Member}
    (children : ∀ sketch ∈ childSketches options layer inside, sketch.IsAnchored) (slot : Slot) :
    (containerSketch options layer inside slot).IsAnchored := by
  refine isAnchored_element_iff.2 ⟨fun child mem _ => ?_, children⟩
  have nonempty : ¬ (childSketches options layer inside).isEmpty = true := by
    rw [List.isEmpty_iff]
    exact List.ne_nil_of_mem mem
  simp only [if_neg nonempty]
  exact (isAnchor_anchoring (absoluteIfAny_positionStyle options layer slot)).lastOfEach

theorem isAnchored_drawn (options : Options) (assets : Assets) (node : Node) :
    ∀ slot, (drawn options assets node slot).IsAnchored :=
  drawn_induct Sketch.isAnchored_fault
    (fun _ _ slot inside => isAnchored_containerSketch inside slot)
    (fun mask container order _ inside => isAnchored_masked_iff.2
      ⟨fun _ _ _ => isAnchor_maskSlot options mask container order, inside⟩)
    (isAnchored_textSketch options) (fun _ _ => Sketch.isAnchored_childless)
    (isAnchored_pictureSketch options) node

/-- The root is placed by nothing. -/
theorem not_isAbsolute_rootSketch (options : Options) (assets : Assets) (root : Node) :
    ¬ IsAbsolute (rootSketch options assets root).style := by
  have unplaced : ¬ IsAbsolute (lastOfEach []) := List.not_mem_nil
  have anchored : ¬ IsAbsolute (lastOfEach (anchoring [])) := by decide
  obtain ⟨layer, children⟩ := root
  rw [rootSketch_eq_drawn]
  cases faulty : isFaulty layer with
  | true =>
    rw [drawn_of_isFaulty faulty]
    exact List.not_mem_nil
  | false =>
    cases rotated : layer.isVectorLike && layer.isRotated options.rotationTolerance with
    | true =>
      obtain ⟨picture, isRotated⟩ := Bool.and_eq_true_iff.1 rotated
      rw [drawn_of_isVectorLike faulty picture, pictureSketch, if_pos isRotated]
      intro absolute
      have mem := lastOfEach_subset _ absolute
      simp [rotatedSlotStyle, anchoring, declares, Position.rotatedOuter] at mem
    | false =>
      obtain ⟨head, inside, same, box⟩ :=
        @isBox_drawn options assets (.mk layer children) faulty rotated .root
      rw [same]
      intro absolute
      rcases box.style with style | style
      · exact unplaced (style ▸ absolute)
      · exact anchored (style ▸ absolute)

/-- **Every absolute box is anchored to the box that it lies in.** The root of a tree is not
positioned absolutely, and what is lies directly in an element that is positioned, relatively or
absolutely. -/
theorem absolute_boxes_anchored {options : Options} {assets : Assets} {sheet : Sheet} {root : Node}
    {tree : Markup} (emitted : (emitRoot options assets sheet root).1 = .ok tree) :
    ¬ IsAbsolute tree.style ∧
      ∀ parent ∈ tree.subtrees, ∀ child ∈ parent.children, IsAbsolute child.style →
        IsAnchor parent.style := by
  have named : (rootSketch options assets root).NamedAs tree := ⟨sheet, _, Prod.ext emitted rfl⟩
  have descends := Sketch.descends_namedAs
  constructor
  · rw [(descends.style_children named).1]
    exact not_isAbsolute_rootSketch options assets root
  · intro parent mem child inside absolute
    -- The element and what is in it are named for a part of the sketch and what is in that.
    obtain ⟨part, isPart, here⟩ := exists_of_forall₂ (descends.parts _ tree named).flip mem
    obtain ⟨style, children⟩ := descends.style_children here
    obtain ⟨sketch, isChild, below⟩ := exists_of_forall₂ children.flip inside
    rw [(descends.style_children below).1] at absolute
    rw [style]
    exact isAnchored_drawn options assets root .root part isPart sketch isChild absolute

/-- A row of a mask, a rotated shape that it covers, and a group out of the row with a text in
it. -/
def maskedShape : Node :=
  .mk { id := "6:1", kind := .frame { mode := .horizontal } }
    [.mk { id := "6:2", kind := .rectangle, isMask := true } [],
      .mk { id := "6:3", kind := .vector, rotation := 30 } [],
      .mk { id := "6:4", kind := .group, positioning := .absolute }
        [.mk { id := "6:5", kind := .text { characters := "a" } } []]]

theorem maskedShape_anchored :
    ∃ tree, (emitRoot {} {} {} maskedShape).1 = .ok tree ∧ ¬ IsAbsolute tree.style ∧
      ∀ parent ∈ tree.subtrees, ∀ child ∈ parent.children, IsAbsolute child.style →
        IsAnchor parent.style := by
  have sound : (rootSketch {} {} maskedShape).faults = [] := by decide +kernel
  obtain ⟨tree, emitted⟩ := (Sketch.exists_name_ok_iff {} (rootSketch {} {} maskedShape)).2 sound
  exact ⟨tree, emitted, absolute_boxes_anchored emitted⟩

end Emission

end SceneMarkup
