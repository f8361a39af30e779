import SceneMarkup.Proofs.Appearance.RealPaint
import SceneMarkup.Proofs.Emission.Composition
import SceneMarkup.Proofs.Emission.Requests
import SceneMarkup.Proofs.Layout.Utilities
import SceneMarkup.Proofs.Position.RealPlaces

/-!
# Trees that show real numbers

If the layers that are reached are modest, every style and every request of a tree shows real
numbers.

* `allShowReals_textDeclarations`, `Declares.showsReals`: how letters are set, and what a layer
  declares by itself;
* `holdsOfUtilities_allReal`: the utilities of a frame;
* `Sketch.ShowsReals`: a sketch all of whose styles and requests show real numbers;
* `shownLayers`, `showsReals_drawn`: so does a node, if the layers that are shown at and below it
  are modest.
-/

namespace SceneMarkup

open Binary (Within)
open Css (AllReal AllShowReals Declaration allReal_append allReal_ite allReal_nil allReal_singleton
  allShowReals_append allShowReals_singleton isReal_percent isReal_px lastOfEach)
open Scene (Layer Node Segment TextStyle shownIn visitsAt)

variable {options : Options} {layer : Layer}

/-! ### Letters -/

namespace Typography

theorem weight_lt (style : String) : weight style < 1000 := by
  have small : ∀ entry ∈ weightNames, entry.2 < 1000 := by decide
  unfold weight
  dsimp only
  split
  · next entry found => exact small entry (List.mem_of_find?_eq_some found)
  · decide

theorem allReal_weightDeclarations (style : String) : AllReal (weightDeclarations style) :=
  allReal_append.2
    ⟨allReal_ite allReal_nil (allReal_singleton (isReal_nat ((weight_lt style).trans (by decide)))),
      allReal_ite (by decide) allReal_nil⟩

theorem allReal_lineHeightDeclarations {height : Scene.LineHeight}
    (small : ∀ x ∈ height.numbers, Within 40 x) :
    AllReal (lineHeightDeclarations height) := by
  cases height with
  | auto => exact allReal_nil
  | percent value =>
    exact allReal_singleton (isReal_percent (small value List.mem_cons_self) (by decide))
  | pixels value => exact allReal_singleton (isReal_px (small value List.mem_cons_self) (by decide))

theorem allReal_letterSpacingDeclarations {spacing : Scene.LetterSpacing}
    (small : ∀ x ∈ spacing.numbers, Within 40 x) : AllReal (letterSpacingDeclarations spacing) := by
  cases spacing with
  | percent value =>
    have share : Within 40 (value / 100) :=
      (small value List.mem_cons_self).div_of_one_le (by decide +kernel)
        (by decide +kernel) (by decide)
    exact allReal_ite allReal_nil
      (allReal_singleton ((share.isReal_compact (by decide)).append_mark (by decide)))
  | pixels value =>
    exact allReal_ite allReal_nil
      (allReal_singleton (isReal_px (small value List.mem_cons_self) (by decide)))

/-- How letters are set shows real numbers, but for the name of their font. -/
theorem allShowReals_textDeclarations (modest : layer.IsModest) {text : TextStyle}
    (isText : layer.kind = .text text) (placeholder : IsReal options.placeholderColor) :
    AllShowReals (textDeclarations options layer text) := by
  have numbers := modest.text isText
  simp only [TextStyle.numbers, List.forall_mem_append] at numbers
  obtain ⟨⟨⟨-, height⟩, spacing⟩, -⟩ := numbers
  have align : AllReal (alignDeclarations text.align) := by
    cases text.align <;> decide
  have case : AllReal (caseDeclarations text.case) := by
    cases text.case <;> decide
  have decoration : AllReal (decorationDeclarations text.decoration) := by
    cases text.decoration <;> decide
  have overflow : AllReal (overflowDeclarations text.autoResize) := by
    cases text.autoResize <;> decide
  have paint :
      AllReal (if text.segments.isEmpty then Appearance.textPaint options layer.fills else []) :=
    allReal_ite (Appearance.allReal_textPaint modest.fills placeholder) allReal_nil
  simp only [textDeclarations, allShowReals_append]
  exact ⟨⟨⟨⟨⟨⟨⟨⟨allShowReals_singleton.2 (.family _), (allReal_weightDeclarations _).shows⟩,
    (allReal_lineHeightDeclarations height).shows⟩,
    (allReal_letterSpacingDeclarations spacing).shows⟩,
    align.shows⟩, case.shows⟩, decoration.shows⟩, overflow.shows⟩, paint.shows⟩

end Typography

/-! ### Sizes and utilities -/

namespace Layout

theorem allReal_sizeIn (modest : layer.IsModest) (placement : Placement) :
    AllReal (sizeIn placement layer).declarations := by
  have extent : ∀ axis, Within 40 (layer.extent axis) := by
    rintro (_ | _)
    · exact modest.width
    · exact modest.height
  have side : ∀ axis, AllReal (dimensionDeclarations layer placement axis) := fun axis =>
    allReal_ite (allReal_singleton (isReal_px (extent axis) (by decide))) allReal_nil
  exact allReal_append.2 ⟨side .horizontal, side .vertical⟩

/-- Utilities of moderate lengths are written with real numbers. -/
theorem holdsOfUtilities_allReal {lengths : List Single}
    (small : ∀ length ∈ lengths, Within 40 length) :
    HoldsOfUtilities (fun request => AllReal request.declarations) lengths where
  plain := by decide
  length := fun _ length mem => allReal_singleton (isReal_px (small length mem) (by decide))
  tracks := fun _ count => by
    have few : count.toNat < 10 ^ 18 := count.toNat_lt.trans (by decide)
    exact allReal_singleton ((IsMark.append (by decide) (isReal_nat few)).append_mark (by decide))

end Layout

namespace Emission

/-! ### What a layer declares by itself -/

theorem Declares.showsReals (modest : layer.IsModest)
    (placeholder : IsReal options.placeholderColor) {declarations : List Declaration}
    (declares : Declares options layer declarations) :
    AllShowReals declarations := by
  have sizes := fun placement => Layout.allReal_sizeIn modest placement
  have box := Appearance.allReal_boxDeclarations modest placeholder
  cases declares with
  | letters isText placement =>
    have shadows : AllReal
        (Appearance.shadowDeclaration "text-shadow" (Appearance.textShadows options layer)) :=
      Appearance.allReal_shadowDeclaration (Appearance.isReal_textShadows modest)
    simp only [allShowReals_append]
    exact ⟨⟨⟨⟨(sizes placement).shows,
      Typography.allShowReals_textDeclarations modest isText placeholder⟩, shadows.shows⟩,
      (Appearance.allReal_blurs modest).shows⟩, (Appearance.allReal_layerDeclarations modest).shows⟩
  | box placement => exact (allReal_append.2 ⟨sizes placement, box⟩).shows
  | container placement =>
    have clips : AllReal
        (if layer.frame?.any Scene.Frame.clipsContent then [⟨"overflow", "hidden"⟩] else []) :=
      allReal_ite (by decide) allReal_nil
    exact (allReal_append.2 ⟨allReal_append.2 ⟨sizes placement, box⟩, clips⟩).shows
  | picture placement asset =>
    exact (allReal_append.2 ⟨sizes placement, allReal_picturePaint modest placeholder asset⟩).shows
  | rotatedPicture asset => exact (allReal_picturePaint modest placeholder asset).shows

end Emission

/-! ### Sketches -/

/-- Requests whose declarations show real numbers. -/
def RequestsShowReals (requests : List Request) : Prop :=
  ∀ request ∈ requests, AllShowReals request.declarations

theorem requestsShowReals_nil : RequestsShowReals [] := fun _ mem => by cases mem

/-- A sketch all of whose styles and requests show real numbers. -/
def Sketch.ShowsReals (sketch : Sketch) : Prop :=
  ∀ part ∈ sketch.parts, AllShowReals part.style ∧ RequestsShowReals part.shown

namespace Sketch

theorem showsReals_element_iff {head : SketchHead} {children : List Sketch} :
    (element head children).ShowsReals ↔
      (AllShowReals head.style ∧ RequestsShowReals head.styling.shown) ∧ ∀ child ∈ children,
        child.ShowsReals :=
  forall_mem_parts_element

theorem showsReals_masked_iff {clip : Option Request} {style : List Declaration}
    {children : List Sketch} : (masked clip style children).ShowsReals ↔
      (AllShowReals style ∧ RequestsShowReals clip.toList) ∧ ∀ child ∈ children, child.ShowsReals :=
  forall_mem_parts_masked

/-- What has no style and asks for nothing. -/
theorem showsReals_blank : AllShowReals [] ∧ RequestsShowReals [] :=
  ⟨Css.allReal_nil.shows, requestsShowReals_nil⟩

theorem IsLetters.showsReals {sketch : Sketch} (letters : sketch.IsLetters) :
    sketch.ShowsReals := by
  cases letters <;> exact List.forall_mem_singleton.2 showsReals_blank

theorem showsReals_element {head : SketchHead} {children : List Sketch}
    (style : AllShowReals head.style) (own : RequestsShowReals head.styling.own.toList)
    (layout : RequestsShowReals head.styling.layout)
    (sizing : RequestsShowReals head.styling.sizing) (extra : RequestsShowReals head.styling.extra)
    (inside : ∀ child ∈ children, child.ShowsReals) : (element head children).ShowsReals := by
  refine showsReals_element_iff.2 ⟨⟨style, ?_⟩, inside⟩
  simp only [RequestsShowReals, Styling.shown, List.forall_mem_append]
  exact ⟨⟨⟨own, layout⟩, sizing⟩, extra⟩

end Sketch

open Sketch (showsReals_blank showsReals_element showsReals_element_iff showsReals_masked_iff)

/-! ### Texts -/

namespace Typography

theorem showsReals_segmentSketch {segment : Segment}
    (modest : ∀ paint ∈ segment.fills, paint.IsModest)
    (placeholder : IsReal options.placeholderColor) :
    ∀ sketch ∈ segmentSketch options segment, sketch.ShowsReals := by
  have letters := isLetters_lines segment.characters
  intro sketch mem
  unfold segmentSketch at mem
  dsimp only at mem
  split at mem
  · exact (letters sketch mem).showsReals
  · rw [List.mem_singleton.1 mem]
    exact showsReals_element_iff.2
      ⟨⟨(Appearance.allReal_textPaint modest placeholder).shows, requestsShowReals_nil⟩,
        fun child inside => (letters child inside).showsReals⟩

theorem showsReals_paragraphSketch {extra : List Request} (asked : RequestsShowReals extra)
    (paragraph : List Char) : (paragraphSketch extra paragraph).ShowsReals :=
  showsReals_element_iff.2 ⟨⟨showsReals_blank.1, asked⟩,
    fun child inside => (isLetters_textSketch paragraph child inside).showsReals⟩

theorem showsReals_paragraphs {request : Request} (asked : AllShowReals request.declarations)
    (parts : List (List Char)) : ∀ sketch ∈ paragraphs request parts, sketch.ShowsReals := by
  induction parts using paragraphs.induct with
  | case1 => exact fun _ mem => by cases mem
  | case2 last =>
    exact List.forall_mem_singleton.2 (showsReals_paragraphSketch requestsShowReals_nil last)
  | case3 paragraph rest more ih =>
    rw [paragraphs]
    · exact List.forall_mem_cons.2
        ⟨showsReals_paragraphSketch (List.forall_mem_singleton.2 asked) paragraph, ih⟩
    · exact more

/-- The content of a modest text shows real numbers. -/
theorem showsReals_textContent (modest : layer.IsModest) {text : TextStyle}
    (isText : layer.kind = .text text) (placeholder : IsReal options.placeholderColor) :
    ∀ sketch ∈ textContent options text, sketch.ShowsReals := by
  have spacing : Within 40 text.paragraphSpacing :=
    modest.text isText _ (by simp [TextStyle.numbers])
  have asked : AllReal (paragraphRequest text.paragraphSpacing).declarations :=
    .cons (by decide) (allReal_singleton (isReal_px spacing (by decide)))
  unfold textContent
  split
  · exact List.forall_mem_flatMap.2 fun segment mem =>
      showsReals_segmentSketch (modest.segments isText segment mem) placeholder
  · split
    · exact showsReals_paragraphs asked.shows _
    · exact fun sketch mem => (isLetters_lines _ sketch mem).showsReals

end Typography

/-! ### Nodes -/

namespace Emission

open Picture (Asset Assets)
open Position (Container isModest_ofMask isModest_of_ofLayer?)

/-- A slot whose container is modest. -/
def Slot.IsModest : Slot → Prop
  | .root => True
  | .child container _ _ _ => container.IsModest

theorem requestsShowReals_ownRequest? {declarations : List Declaration}
    (shows : AllShowReals declarations) :
    RequestsShowReals (ownRequest? layer declarations).toList := by
  intro request asked
  rw [ownRequest?_eq_own asked]
  exact shows.lastOfEach

theorem requestsShowReals_clipRequest? (modest : layer.IsModest) :
    RequestsShowReals (clipRequest? options layer).toList := by
  intro request asked
  rw [clipRequest?_eq_own asked]
  exact (allReal_clipDeclarations modest).shows

theorem requestsShowReals_sizeIn (placement : Layout.Placement) :
    RequestsShowReals (Layout.sizeIn placement layer).requests := by
  have plain : ∀ request ∈ Layout.fixedUtilities, AllReal request.declarations := by decide
  exact fun request mem =>
    (plain request (Layout.mem_fixedUtilities_of_mem_sizeIn request mem)).shows

theorem allShowReals_anchoring {style : List Declaration} (shows : AllShowReals style) :
    AllShowReals (anchoring style) := by
  have relative : AllReal [⟨"position", "relative"⟩] := by decide
  unfold anchoring
  split
  · exact shows
  · exact allShowReals_append.2 ⟨relative.shows, shows⟩

section Nodes

variable {slot : Slot} (modest : layer.IsModest) (inside : slot.IsModest)
include modest

theorem requestsShowReals_layout :
    RequestsShowReals ((layer.frame?.map Layout.containerRequests).getD []) := by
  cases isFrame : layer.frame? with
  | none => exact requestsShowReals_nil
  | some frame =>
    exact fun request mem =>
      ((Layout.holdsOfUtilities_allReal (modest.frame isFrame)).containerRequests request mem).shows

include inside

theorem allShowReals_positionStyle : AllShowReals (positionStyle options layer slot) := by
  cases slot with
  | root => exact showsReals_blank.1
  | child container placement index count => exact Position.allShowReals_place modest inside _

variable (placeholder : IsReal options.placeholderColor)
include placeholder

theorem showsReals_textSketch {text : TextStyle} (isText : layer.kind = .text text) :
    (textSketch options layer text slot).ShowsReals := by
  have size : Within 40 text.fontSize := modest.text isText _ (by simp [TextStyle.numbers])
  have letters : AllReal (Layout.fontSizeRequest text.fontSize).declarations :=
    allReal_singleton (isReal_px size (by decide))
  exact showsReals_element (allShowReals_positionStyle modest inside).lastOfEach
    (requestsShowReals_ownRequest?
      ((Declares.letters isText slot.placement).showsReals modest placeholder))
    requestsShowReals_nil (requestsShowReals_sizeIn _) (List.forall_mem_singleton.2 letters.shows)
    (Typography.showsReals_textContent modest isText placeholder)

theorem showsReals_boxSketch : (boxSketch options layer slot).ShowsReals :=
  showsReals_element (allShowReals_positionStyle modest inside).lastOfEach
    (requestsShowReals_ownRequest? ((Declares.box slot.placement).showsReals modest placeholder))
    requestsShowReals_nil (requestsShowReals_sizeIn _) requestsShowReals_nil
      fun _ mem => by cases mem

theorem showsReals_rotatedPicture (asset : Asset) :
    (rotatedPicture options layer asset slot).ShowsReals := by
  have outer : AllShowReals (rotatedSlotStyle options layer slot) := by
    cases slot with
    | root => exact showsReals_blank.1
    | child container placement index count =>
      exact Position.allShowReals_rotatedSlot modest inside _
  have style := allShowReals_append.2
    ⟨allShowReals_anchoring outer, (Position.allReal_rotatedOuter modest).shows⟩
  refine showsReals_element_iff.2 ⟨⟨style.lastOfEach, requestsShowReals_nil⟩,
    List.forall_mem_singleton.2 ?_⟩
  exact showsReals_element (Position.allReal_rotatedInner modest).shows
    (requestsShowReals_ownRequest? ((Declares.rotatedPicture asset).showsReals modest placeholder))
    requestsShowReals_nil requestsShowReals_nil requestsShowReals_nil fun _ mem => by cases mem

theorem showsReals_pictureSketch (asset : Asset) :
    (pictureSketch options layer asset slot).ShowsReals := by
  unfold pictureSketch
  split
  · exact showsReals_rotatedPicture modest inside placeholder asset
  · exact showsReals_element (allShowReals_positionStyle modest inside).lastOfEach
      (requestsShowReals_ownRequest?
        ((Declares.picture slot.placement asset).showsReals modest placeholder))
      requestsShowReals_nil (requestsShowReals_sizeIn _) requestsShowReals_nil
        fun _ mem => by cases mem

theorem showsReals_containerSketch {all : List Member}
    (children : ∀ sketch ∈ childSketches options layer all, sketch.ShowsReals) :
    (containerSketch options layer all slot).ShowsReals := by
  have place : AllShowReals (positionStyle options layer slot) :=
    allShowReals_positionStyle modest inside
  refine showsReals_element ?_
    (requestsShowReals_ownRequest?
      ((Declares.container slot.placement).showsReals modest placeholder))
    (requestsShowReals_layout modest) (requestsShowReals_sizeIn _) requestsShowReals_nil children
  dsimp only
  split
  · exact place.lastOfEach
  · exact (allShowReals_anchoring place).lastOfEach

end Nodes

/-! ### Trees -/

/-- The layers that a node shows: its own, and those of the masks among its children that are not
hidden. -/
def shownLayers (node : Node) : List Layer :=
  node.layer :: (node.children.map Node.layer).filter fun layer => layer.isMask && layer.visible

/-- The mask of a box is among the layers that its container shows. -/
theorem mem_shownLayers_of_wrapper {assets : Assets} {children : List Node} {mask : Node} {i : Nat}
    {covered : List (Node × Nat)}
    (made : .wrapper mask i covered ∈ pieces (members options assets children)) :
    mask.layer ∈ (children.map Node.layer).filter fun layer => layer.isMask && layer.visible := by
  obtain ⟨cluster, mem, -, same⟩ := mem_pieces made
  have placed := placed_clusters _ cluster mem
  cases cluster with
  | single index member => cases same
  | run member first inside =>
    obtain ⟨_, -, here, active, -⟩ := placed
    obtain ⟨rfl, -, -⟩ := Piece.wrapper.inj same
    have isChild : member.node ∈ children := by
      rw [← map_node_members options assets children]
      exact List.mem_map_of_mem (List.mem_of_getElem? here)
    exact List.mem_filter.2 ⟨List.mem_map_of_mem isChild, active⟩

/-- The children of a modest container show real numbers if each does in every modest slot. -/
theorem showsReals_childSketches {assets : Assets} (modest : layer.IsModest) {container : Container}
    (isContainer : Container.ofLayer? layer = some container) {children : List Node}
    (masks : ∀ mask ∈ (children.map Node.layer).filter fun layer => layer.isMask && layer.visible,
      mask.IsModest)
    (child : ∀ child ∈ shownIn children, ∀ place : Slot, place.IsModest →
      (drawn options assets child.1 place).ShowsReals) :
    ∀ sketch ∈ childSketches options layer (members options assets children),
      sketch.ShowsReals := by
  have around := isModest_of_ofLayer? modest isContainer
  rw [childSketches_eq options assets isContainer]
  refine List.forall_mem_map.2 fun piece made => ?_
  cases piece with
  | own node index => exact child (node, index) (mem_shownIn made List.mem_cons_self) _ around
  | wrapper mask i covered =>
    have masking := masks _ (mem_shownLayers_of_wrapper made)
    refine showsReals_masked_iff.2 ⟨⟨Position.allShowReals_maskSlot masking around _,
      requestsShowReals_clipRequest? masking⟩, List.forall_mem_map.2 fun node shown => ?_⟩
    exact child node (mem_shownIn made shown) _ (isModest_ofMask masking)

/-- **A node shows real numbers**, if the layers at and below it that are shown are modest. -/
theorem showsReals_drawn {assets : Assets} (placeholder : IsReal options.placeholderColor)
    (node : Node) :
    ∀ slot address, slot.IsModest →
      (∀ visit ∈ visitsAt Layer.isContainer address node, ∀ layer ∈ shownLayers visit.2,
        layer.IsModest) →
        (drawn options assets node slot).ShowsReals := by
  induction node using Node.induct with
  | mk layer children ih =>
    intro slot address inside each
    rw [Scene.visitsAt_mk] at each
    obtain ⟨here, below⟩ := List.forall_mem_cons.1 each
    obtain ⟨modest, masks⟩ := List.forall_mem_cons.1 here
    dsimp only [Node.layer_mk, Node.children_mk] at modest masks
    by_cases goes : layer.isContainer = true
    · obtain ⟨container, isContainer⟩ := isContainer_iff.1 goes
      rw [if_pos goes] at below
      rw [drawn_of_isContainer (by rw [isFaulty, modest.hasFiniteGeometry]; rfl) goes]
      refine showsReals_containerSketch modest inside placeholder
        (showsReals_childSketches modest isContainer masks
          fun child shown place placeIsModest => ?_)
      exact ih child.1 (Scene.mem_children_of_mem_shownIn shown) place
        (child.2 :: address) placeIsModest
        fun visit met => below visit (List.mem_flatMap_of_mem shown met)
    · rw [drawn, Node.layer_mk, layerSketch, modest.hasFiniteGeometry]
      unfold Layer.isContainer at goes
      cases shape : layer.kind with
      | frame frame => simp [shape] at goes
      | group => simp [shape] at goes
      | text text => exact showsReals_textSketch modest inside placeholder shape
      | rectangle => exact showsReals_boxSketch modest inside placeholder
      | ellipse => exact showsReals_pictureSketch modest inside placeholder _
      | vector => exact showsReals_pictureSketch modest inside placeholder _

end Emission

end SceneMarkup
