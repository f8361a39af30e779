import SceneMarkup.Proofs.Layout.Tables
import SceneMarkup.Proofs.Typography.Content

/-!
# What an element is composed of

An element has a style and some requests. They have nothing to do with each other, whatever the node
is, wherever it is shown, and whatever rules its requests come to share.

* `Composed`: a style and requests that have nothing to do with each other;
* `composed_of_fits`: so it is for what stands in a table;
* `IsBox`, `IsBox.composed`: so it is for the element of a node in a slot, which has a place, a
  size, paint, and perhaps the utilities of a container or a size of letters;
* `Sketch.IsComposed`, `isComposed_drawn`: so it is for everything in a tree.
-/

namespace SceneMarkup

open Css (Declaration DeclaresOnly Independent declaresOnly_cons declaresOnly_singleton lastOfEach
  nodup_lastOfEach)
open Scene (Layer Node Segment TextStyle)
open Appearance (Paints)

/-- A style and requests that have nothing to do with each other, nor with what shares their
classes. -/
structure Composed (style : List Declaration) (shown : List Request) : Prop where
  nodup : (style.map Declaration.property).Nodup
  orderly : ∀ request ∈ shown, Orderly request.declarations
  independent : (style.map Declaration.property :: shown.map Request.family).Pairwise Independent

/-- A style and requests that stand in a table whose entries have nothing to do with each other. -/
theorem composed_of_fits {style : List Declaration} {shown : List Request}
    {properties : List String} {table : List (List String)}
    (nodup : (style.map Declaration.property).Nodup) (declares : DeclaresOnly properties style)
    (fits : Fits shown table) (apart : (properties :: table).Pairwise Independent) :
    Composed style shown := by
  obtain ⟨first, rest⟩ := List.pairwise_cons.1 apart
  refine ⟨nodup, fits.orderly, .cons (fun others mem => ?_) (fits.pairwise rest)⟩
  exact (fits.independent first others mem).mono declares.map_subset (List.Subset.refl others)

/-- A style alone. -/
theorem composed_nil {style : List Declaration} (nodup : (style.map Declaration.property).Nodup) :
    Composed style [] :=
  ⟨nodup, fun _ mem => (by cases mem), List.pairwise_singleton _ _⟩

namespace Emission

open Layout (containerTables elementTable pairwise_elementTable)
open Picture (Asset Assets)

/-- The element of a node in a slot. It asks for the size of the node, for what the node declares by
itself, for the layout of its children and for the size of letters, and its style places the
node. -/
structure IsBox (options : Options) (layer : Layer) (slot : Slot) (head : SketchHead) : Prop where
  sizing : head.styling.sizing = (Layout.sizeIn slot.placement layer).requests
  own : ∃ paint, Paints paint ∧
    head.styling.own =
      ownRequest? layer ((Layout.sizeIn slot.placement layer).declarations ++ paint)
  layout : ∃ table ∈ containerTables, Fits head.styling.layout table
  extra : Fits head.styling.extra [["font-size"]]
  style : head.style = lastOfEach (positionStyle options layer slot) ∨
    head.style = lastOfEach (anchoring (positionStyle options layer slot))

/-- No utility is one of a container. -/
theorem fits_no_layout : ∃ table ∈ containerTables, Fits [] table :=
  ⟨Layout.flowTable [["gap"]] [["padding"]], by decide, .nil⟩

/-- What a box asks for is in one of the tables of elements. -/
theorem IsBox.fits {options : Options} {layer : Layer} {slot : Slot} {head : SketchHead}
    (box : IsBox options layer slot head) :
    ∃ table ∈ containerTables, Fits head.styling.own.toList [sizeProperties ++ paintProperties] ∧
      Fits head.styling.layout table ∧ Fits head.styling.sizing Layout.itemTable ∧
      Fits head.styling.extra [["font-size"]] := by
  obtain ⟨paint, paints, isOwn⟩ := box.own
  obtain ⟨table, isTable, layout⟩ := box.layout
  refine ⟨table, isTable, ?_, layout, ?_, box.extra⟩
  · rw [isOwn]
    cases asked :
      ownRequest? layer ((Layout.sizeIn slot.placement layer).declarations ++ paint) with
    | none => exact .nil
    | some request =>
      exact fits_singleton
        (within_ownRequest? (Layout.isSize_sizeIn slot.placement layer) paints asked)
  · rw [box.sizing]
    exact Layout.fits_sizeIn slot.placement layer

/-- A place, a size, paint and utilities have nothing to do with each other. -/
theorem IsBox.composed {options : Options} {layer : Layer} {slot : Slot} {head : SketchHead}
    (box : IsBox options layer slot head) : Composed head.style head.styling.shown := by
  obtain ⟨table, isTable, own, layout, sizing, extra⟩ := box.fits
  have placed := places_positionStyle options layer slot
  have style : (head.style.map Declaration.property).Nodup ∧
      DeclaresOnly placingProperties head.style := by
    rcases box.style with style | style
    · rw [style]
      exact ⟨nodup_lastOfEach _, placed.lastOfEach⟩
    · rw [style]
      exact ⟨nodup_lastOfEach _, (places_anchoring placed).lastOfEach⟩
  refine composed_of_fits style.1 style.2 ?_ (pairwise_elementTable table isTable)
  exact sublistForall₂_append
    (sublistForall₂_append (sublistForall₂_append own layout) sizing) extra

end Emission

/-! ### Sketches -/

/-- What an element asks for, in the order in which it shows it; the box of a mask asks for its
shape. -/
def Sketch.shown : Sketch → List Request
  | .element head _ => head.styling.shown
  | .masked clip _ _ => clip.toList
  | .text _ | .lineBreak | .fault _ => []

/-- Everything in a sketch has a style and requests that have nothing to do with each other. -/
def Sketch.IsComposed (sketch : Sketch) : Prop :=
  ∀ part ∈ sketch.parts, Composed part.style part.shown

namespace Sketch

theorem isComposed_element_iff {head : SketchHead} {children : List Sketch} :
    (element head children).IsComposed ↔
      Composed head.style head.styling.shown ∧ ∀ child ∈ children, child.IsComposed :=
  forall_mem_parts_element

theorem isComposed_masked_iff {clip : Option Request} {style : List Declaration}
    {children : List Sketch} :
    (masked clip style children).IsComposed ↔
      Composed style clip.toList ∧ ∀ child ∈ children, child.IsComposed :=
  forall_mem_parts_masked

theorem IsLetters.isComposed {sketch : Sketch} (letters : sketch.IsLetters) :
    sketch.IsComposed := by
  cases letters <;> exact List.forall_mem_singleton.2 (composed_nil List.nodup_nil)

theorem isComposed_fault (id : String) : (fault id).IsComposed :=
  List.forall_mem_singleton.2 (composed_nil List.nodup_nil)

end Sketch

namespace Sketch

theorem composed_paragraphRequest (spacing : Single) :
    Composed [] [Typography.paragraphRequest spacing] := by
  have within : (Typography.paragraphRequest spacing).Within (family "display") :=
    Request.within_of_cons_unsized rfl rfl (by decide)
      (declaresOnly_cons.2 ⟨by decide, declaresOnly_singleton.2 (by decide)⟩)
      (show ["display", "margin-bottom"].Nodup by decide)
  exact composed_of_fits List.nodup_nil (@Css.declaresOnly_nil [])
    (fits_singleton within) (by decide)

/-- Everything in a text. -/
theorem IsContent.isComposed {sketch : Sketch} {spacing : Single}
    (content : sketch.IsContent (Typography.paragraphRequest spacing)) : sketch.IsComposed := by
  cases content with
  | letters letters => exact letters.isComposed
  | @paragraph tag extra children asked letters =>
    refine isComposed_element_iff.2 ⟨?_, fun child mem => (letters child mem).isComposed⟩
    rcases List.sublist_singleton.1 asked with rfl | rfl
    · exact composed_nil List.nodup_nil
    · exact composed_paragraphRequest spacing
  | segment _ nodup letters =>
    exact isComposed_element_iff.2
      ⟨composed_nil nodup, fun child mem => (letters child mem).isComposed⟩

end Sketch

namespace Emission

open Sketch (isComposed_element_iff isComposed_masked_iff)
open Picture (Asset Assets)

/-! ### Leaves -/

theorem isBox_textSketch (options : Options) (layer : Layer) (text : TextStyle) (slot : Slot) :
    ∃ head, textSketch options layer text slot =
      .element head (Typography.textContent options text) ∧
      IsBox options layer slot head := by
  have paints : Paints (Typography.textDeclarations options layer text ++
      Appearance.shadowDeclaration "text-shadow" (Appearance.textShadows options layer) ++
      Appearance.blurs layer ++ Appearance.layerDeclarations options layer) := by
    simp only [Paints, Css.declaresOnly_append]
    exact ⟨⟨⟨Typography.paints_textDeclarations options layer text,
      Appearance.paints_shadowDeclaration (by decide) _⟩, Appearance.paints_blurs layer⟩,
      Appearance.paints_layerDeclarations options layer⟩
  refine ⟨_, rfl, rfl, ⟨_, paints, ?_⟩, fits_no_layout,
    fits_singleton (Layout.within_fontSizeRequest text.fontSize), .inl rfl⟩
  simp only [List.append_assoc]

theorem isBox_boxSketch (options : Options) (layer : Layer) (slot : Slot) :
    ∃ head, boxSketch options layer slot = .element head [] ∧ IsBox options layer slot head :=
  ⟨_, rfl, rfl, ⟨_, Appearance.paints_boxDeclarations options layer, rfl⟩, fits_no_layout, .nil,
    .inl rfl⟩

theorem isBox_uprightPicture (options : Options) (layer : Layer) (asset : Asset) (slot : Slot) :
    ∃ head, uprightPicture options layer asset slot = .element head [] ∧
      IsBox options layer slot head :=
  ⟨_, rfl, rfl, ⟨_, paints_picturePaint options layer asset, rfl⟩, fits_no_layout, .nil, .inl rfl⟩

theorem isComposed_textSketch (options : Options) (layer : Layer) (text : TextStyle) (slot : Slot) :
    (textSketch options layer text slot).IsComposed := by
  obtain ⟨head, same, box⟩ := isBox_textSketch options layer text slot
  rw [same]
  exact isComposed_element_iff.2 ⟨box.composed, fun child mem =>
    (Typography.isContent_textContent options text child mem).isComposed⟩

theorem isComposed_of_isBox {options : Options} {layer : Layer} {slot : Slot} {sketch : Sketch}
    (childless : ∃ head, sketch = .element head [] ∧ IsBox options layer slot head) :
    sketch.IsComposed := by
  obtain ⟨head, rfl, box⟩ := childless
  exact isComposed_element_iff.2 ⟨box.composed, fun _ mem => by cases mem⟩

/-- The rotated box of a picture has its size in its style, so it declares paint only. -/
theorem composed_rotatedInner (layer : Layer) {paint : List Declaration} (paints : Paints paint) :
    Composed (Position.rotatedInner layer) (Styling.shown { own := ownRequest? layer paint }) := by
  have own : Fits (Styling.shown { own := ownRequest? layer paint }) [paintProperties] := by
    cases asked : ownRequest? layer paint with
    | none => exact .nil
    | some request => exact fits_singleton (within_paint paints asked)
  have style : DeclaresOnly ["position", "left", "top", "width", "height", "transform"]
      (Position.rotatedInner layer) := by
    simp only [Position.rotatedInner, declaresOnly_cons]
    exact ⟨by decide, by decide, by decide, by decide, by decide, by decide, Css.declaresOnly_nil⟩
  exact composed_of_fits
    (show ["position", "left", "top", "width", "height", "transform"].Nodup by decide) style own
    (by decide)

theorem isComposed_rotatedPicture (options : Options) (layer : Layer) (asset : Asset)
    (slot : Slot) : (rotatedPicture options layer asset slot).IsComposed := by
  refine isComposed_element_iff.2 ⟨composed_nil (nodup_lastOfEach _), ?_⟩
  refine List.forall_mem_singleton.2 (isComposed_element_iff.2 ⟨?_, fun _ mem => by cases mem⟩)
  exact composed_rotatedInner layer (paints_picturePaint options layer asset)

theorem isComposed_pictureSketch (options : Options) (layer : Layer) (asset : Asset) (slot : Slot) :
    (pictureSketch options layer asset slot).IsComposed := by
  unfold pictureSketch
  split
  · exact isComposed_rotatedPicture options layer asset slot
  · exact isComposed_of_isBox (isBox_uprightPicture options layer asset slot)

/-! ### Containers and masks -/

/-- The shape of a mask has a path, an image in two spellings, or both. -/
theorem sublist_clipDeclarations (options : Options) (mask : Layer) :
    ((clipDeclarations options mask).map Declaration.property).Sublist clipProperties := by
  have path : (((clipPath? mask).map fun path => (⟨"clip-path", path⟩ : Declaration)).toList.map
      Declaration.property).Sublist ["clip-path"] := by
    cases clipPath? mask with
    | none => exact List.nil_sublist _
    | some path => exact List.Sublist.refl _
  rw [clipDeclarations, List.map_append]
  refine path.append ?_
  split
  · exact List.Sublist.refl ["-webkit-mask-image", "mask-image"]
  · exact List.nil_sublist _

theorem within_clipRequest? {options : Options} {mask : Layer} {request : Request}
    (asked : clipRequest? options mask = some request) : request.Within clipProperties := by
  have sublist := sublist_clipDeclarations options mask
  unfold clipRequest? at asked
  cases shape : clipDeclarations options mask with
  | nil =>
    rw [shape] at asked
    cases asked
  | cons first rest =>
    rw [shape] at asked sublist
    obtain rfl := Option.some.inj asked
    have inside : ∀ d ∈ first :: rest, d.property ∈ clipProperties := fun d mem =>
      sublist.subset (List.mem_map_of_mem mem)
    exact Request.within_of_cons_unsized rfl
      (family_of_clip _ (inside first List.mem_cons_self)) (by decide)
      inside (sublist.nodup (by decide))

/-- The box of a mask has nothing to do with its shape. -/
theorem composed_maskSlot (options : Options) (mask : Layer) (container : Position.Container)
    (order : Int) :
    Composed (Position.maskSlot options mask container order)
      (clipRequest? options mask).toList := by
  have shape : Fits (clipRequest? options mask).toList [clipProperties] := by
    cases asked : clipRequest? options mask with
    | none => exact .nil
    | some request => exact fits_singleton (within_clipRequest? asked)
  have style : DeclaresOnly ["position", "left", "top", "width", "height", "overflow", "z-index"]
      (Position.maskSlot options mask container order) := by
    simp only [Position.maskSlot, declaresOnly_cons]
    exact ⟨by decide, by decide, by decide, by decide, by decide, by decide, by decide,
      Css.declaresOnly_nil⟩
  exact composed_of_fits
    (show ["position", "left", "top", "width", "height", "overflow",
      "z-index"].Nodup by decide) style
    shape (by decide)

theorem isBox_containerSketch (options : Options) (layer : Layer) (inside : List Member)
    (slot : Slot) :
    ∃ head, containerSketch options layer inside slot =
        .element head (childSketches options layer inside) ∧ IsBox options layer slot head := by
  have clips : Paints (if layer.frame?.any Scene.Frame.clipsContent then
      [⟨"overflow", "hidden"⟩] else []) :=
    Css.declaresOnly_ite (declaresOnly_singleton.2 (by decide)) Css.declaresOnly_nil
  have paints := Css.declaresOnly_append.2 ⟨Appearance.paints_boxDeclarations options layer, clips⟩
  refine ⟨_, rfl, rfl, ⟨_, paints, ?_⟩, ?_, .nil, ?_⟩
  · simp only [List.append_assoc]
  · cases layer.frame? with
    | none => exact fits_no_layout
    | some frame => exact Layout.fits_containerRequests frame
  · simp only
    split
    · exact .inl rfl
    · exact .inr rfl

theorem isComposed_containerSketch {options : Options} {layer : Layer} {inside : List Member}
    (children : ∀ sketch ∈ childSketches options layer inside, sketch.IsComposed) (slot : Slot) :
    (containerSketch options layer inside slot).IsComposed := by
  obtain ⟨head, same, box⟩ := isBox_containerSketch options layer inside slot
  rw [same]
  exact isComposed_element_iff.2 ⟨box.composed, children⟩

/-- Every node that can be placed is a box, but for a rotated picture. -/
theorem isBox_drawn {options : Options} {assets : Assets} {node : Node}
    (sound : isFaulty node.layer = false)
    (upright : (node.layer.isVectorLike && node.layer.isRotated options.rotationTolerance) = false)
    (slot : Slot) :
    ∃ head children, drawn options assets node slot = .element head children ∧
      IsBox options node.layer slot head := by
  rw [isFaulty, Bool.not_eq_false'] at sound
  have box : ∀ {sketch : Sketch} {children : List Sketch},
      (∃ head, sketch = .element head children ∧ IsBox options node.layer slot head) →
        ∃ head children, sketch = .element head children ∧ IsBox options node.layer slot head := by
    rintro sketch children ⟨head, same, box⟩
    exact ⟨head, _, same, box⟩
  have picture : ∀ asset, node.layer.isVectorLike = true → ∃ head children,
      pictureSketch options node.layer asset slot = .element head children ∧
        IsBox options node.layer slot head := by
    intro asset isPicture
    rw [isPicture, Bool.true_and] at upright
    rw [pictureSketch, upright]
    exact box (isBox_uprightPicture options node.layer asset slot)
  rw [drawn, layerSketch, sound]
  cases kind : node.layer.kind with
  | frame frame => exact box (isBox_containerSketch options _ _ slot)
  | group => exact box (isBox_containerSketch options _ _ slot)
  | text text => exact box (isBox_textSketch options _ _ slot)
  | rectangle => exact box (isBox_boxSketch options _ slot)
  | ellipse => exact picture _ (by rw [Layer.isVectorLike, kind])
  | vector => exact picture _ (by rw [Layer.isVectorLike, kind])

/-- **Everything in a tree is composed of what has nothing to do with each other.** -/
theorem isComposed_drawn (options : Options) (assets : Assets) (node : Node) :
    ∀ slot, (drawn options assets node slot).IsComposed :=
  drawn_induct Sketch.isComposed_fault
    (fun _ _ slot inside => isComposed_containerSketch inside slot)
    (fun mask container order _ inside =>
      isComposed_masked_iff.2 ⟨composed_maskSlot options mask container order, inside⟩)
    (isComposed_textSketch options)
    (fun layer slot => isComposed_of_isBox (isBox_boxSketch options layer slot))
    (isComposed_pictureSketch options) node

end Emission

end SceneMarkup
