import SceneMarkup.Emission.Leaf
import SceneMarkup.Proofs.Css.Cascade
import SceneMarkup.Proofs.Stylesheet.Families

/-!
# Which properties a node declares

* `DeclaresOnly`: declarations of some properties only;
* `paints_boxDeclarations`, `paints_textDeclarations`, `paints_picturePaint`: what is painted;
* `placeAt_of_hasInFlow`, `placeAt_of_not_hasInFlow`, `places_positionStyle`: what places a node: in
  a flow nothing but shifts, else edges along both axes;
* `isSize_sizeIn`: what gives a node its size;
* `within_ownRequest?`: what a node declares by itself shares a class with sizes and paint only, and
  with paint only if it has no size.
-/

namespace SceneMarkup

open Css (Declaration IsPlain lastOfEach)
open Scene (Layer TextStyle)

namespace Css

/-- Declarations of some properties only. -/
def DeclaresOnly (properties : List String) (declarations : List Declaration) : Prop :=
  ∀ d ∈ declarations, d.property ∈ properties

instance (properties : List String) (declarations : List Declaration) :
    Decidable (DeclaresOnly properties declarations) :=
  inferInstanceAs (Decidable (∀ d ∈ declarations, d.property ∈ properties))

variable {properties : List String} {a b : List Declaration}

theorem declaresOnly_nil : DeclaresOnly properties [] := fun _ mem => by cases mem

theorem declaresOnly_cons {property value : String} :
    DeclaresOnly properties (⟨property, value⟩ :: a) ↔
      property ∈ properties ∧ DeclaresOnly properties a :=
  List.forall_mem_cons

theorem declaresOnly_singleton {property value : String} :
    DeclaresOnly properties [⟨property, value⟩] ↔ property ∈ properties :=
  List.forall_mem_singleton

theorem declaresOnly_append :
    DeclaresOnly properties (a ++ b) ↔ DeclaresOnly properties a ∧ DeclaresOnly properties b :=
  List.forall_mem_append

theorem declaresOnly_ite {p : Prop} [Decidable p] (ha : DeclaresOnly properties a)
    (hb : DeclaresOnly properties b) : DeclaresOnly properties (if p then a else b) := by
  split
  · exact ha
  · exact hb

/-- A declaration for a value, if there is one. -/
theorem declaresOnly_toList {α : Type} {property : String} (h : property ∈ properties)
    (value : Option α) (text : α → String) :
    DeclaresOnly properties (value.map fun v => (⟨property, text v⟩ : Declaration)).toList := by
  cases value with
  | none => exact declaresOnly_nil
  | some v => exact declaresOnly_singleton.2 h

theorem not_declares_of_declaresOnly (only : DeclaresOnly properties a) {property : String}
    (other : property ∉ properties) : declares a property = false :=
  declares_eq_false_iff.2 fun d mem same => other (same ▸ only d mem)

theorem DeclaresOnly.sublist (h : DeclaresOnly properties b) (sublist : a.Sublist b) :
    DeclaresOnly properties a :=
  fun d mem => h d (sublist.subset mem)

theorem DeclaresOnly.mono {others : List String} (h : DeclaresOnly properties a)
    (more : properties ⊆ others) : DeclaresOnly others a :=
  fun d mem => more (h d mem)

theorem DeclaresOnly.lastOfEach (h : DeclaresOnly properties a) :
    DeclaresOnly properties (Css.lastOfEach a) :=
  h.sublist (lastOfEach_sublist a)

theorem DeclaresOnly.map_subset (h : DeclaresOnly properties a) :
    a.map Declaration.property ⊆ properties := by
  intro property mem
  obtain ⟨d, declared, rfl⟩ := List.mem_map.1 mem
  exact h d declared

end Css

open Css

/-! ### Paint -/

namespace Appearance

/-- Declarations of paint. -/
abbrev Paints (declarations : List Declaration) : Prop := DeclaresOnly paintProperties declarations

theorem paints_shadowDeclaration {property : String} (h : property ∈ paintProperties)
    (shadows : List String) : Paints (shadowDeclaration property shadows) :=
  declaresOnly_ite declaresOnly_nil (declaresOnly_singleton.2 h)

theorem paints_blurDeclaration {property : String} (h : property ∈ paintProperties)
    (radii : List Single) : Paints (blurDeclaration property radii) := by
  unfold blurDeclaration
  split
  · exact declaresOnly_singleton.2 h
  · exact declaresOnly_nil

theorem paints_blurs (layer : Layer) : Paints (blurs layer) :=
  declaresOnly_append.2
    ⟨paints_blurDeclaration (by decide) _, paints_blurDeclaration (by decide) _⟩

theorem paints_layerDeclarations (options : Options) (layer : Layer) :
    Paints (layerDeclarations options layer) :=
  declaresOnly_append.2
    ⟨declaresOnly_ite declaresOnly_nil (declaresOnly_singleton.2 (by decide)),
      declaresOnly_toList (by decide) _ _⟩

/-- A stroke is an outline or a border, if it is no shadow. -/
theorem paints_strokeStyle? (options : Options) (layer : Layer) :
    Paints (((strokeStyle? options layer).map StrokeStyle.parts).getD ([], [])).1 := by
  cases stroke : strokeStyle? options layer with
  | none => exact declaresOnly_nil
  | some style =>
    unfold strokeStyle? at stroke
    split at stroke
    · cases stroke
    · obtain ⟨paint, -, shown⟩ := Option.bind_eq_some_iff.1 stroke
      split at shown
      · obtain rfl := Option.some.inj shown
        cases layer.strokeAlign with
        | inside => exact declaresOnly_nil
        | outside => exact declaresOnly_cons.2 ⟨by decide, declaresOnly_singleton.2 (by decide)⟩
        | center => exact declaresOnly_singleton.2 (by decide)
      · cases shown
      · cases shown

theorem paints_boxDeclarations (options : Options) (layer : Layer) :
    Paints (boxDeclarations options layer) := by
  simp only [boxDeclarations, Paints, declaresOnly_append]
  exact ⟨⟨⟨⟨⟨declaresOnly_toList (by decide) _ _, paints_strokeStyle? options layer⟩,
    declaresOnly_toList (by decide) _ _⟩, paints_shadowDeclaration (by decide) _⟩,
    paints_blurs layer⟩, paints_layerDeclarations options layer⟩

/-- The paint of letters is a color, or a gradient behind them. -/
theorem textPaint_cases (options : Options) (fills : List Scene.Paint) :
    textPaint options fills = [] ∨ (∃ color, textPaint options fills = [⟨"color", color⟩]) ∨
      ∃ gradient, textPaint options fills = clippedToLetters gradient := by
  unfold textPaint
  split
  · split
    · exact .inr (.inl ⟨_, rfl⟩)
    · exact .inr (.inr ⟨_, rfl⟩)
    · exact .inl rfl
  · split
    · exact .inr (.inl ⟨_, rfl⟩)
    · exact .inl rfl

theorem paints_textPaint (options : Options) (fills : List Scene.Paint) :
    Paints (textPaint options fills) := by
  rcases textPaint_cases options fills with empty | ⟨color, plain⟩ | ⟨gradient, clipped⟩
  · rw [empty]
    exact declaresOnly_nil
  · rw [plain]
    exact declaresOnly_singleton.2 (by decide)
  · rw [clipped, clippedToLetters]
    simp only [Paints, declaresOnly_cons]
    exact ⟨by decide, by decide, by decide, by decide, declaresOnly_nil⟩

/-- The paint of letters declares nothing twice. -/
theorem nodup_textPaint (options : Options) (fills : List Scene.Paint) :
    ((textPaint options fills).map Declaration.property).Nodup := by
  rcases textPaint_cases options fills with empty | ⟨color, plain⟩ | ⟨gradient, clipped⟩
  · rw [empty]
    exact List.nodup_nil
  · rw [plain]
    exact List.nodup_singleton _
  · rw [clipped, clippedToLetters]
    simp only [List.map_cons, List.map_nil]
    decide

end Appearance

open Appearance (Paints)

namespace Typography

/-- How the letters of a text are set and painted is paint. -/
theorem paints_textDeclarations (options : Options) (layer : Layer) (text : TextStyle) :
    Paints (textDeclarations options layer text) := by
  have weight : Paints (weightDeclarations text.font.style) :=
    declaresOnly_append.2
      ⟨declaresOnly_ite declaresOnly_nil (declaresOnly_singleton.2 (by decide)),
        declaresOnly_ite (declaresOnly_singleton.2 (by decide)) declaresOnly_nil⟩
  have lineHeight : Paints (lineHeightDeclarations text.lineHeight) := by
    cases text.lineHeight with
    | auto => exact declaresOnly_nil
    | percent value => exact declaresOnly_singleton.2 (by decide)
    | pixels value => exact declaresOnly_singleton.2 (by decide)
  have letterSpacing : Paints (letterSpacingDeclarations text.letterSpacing) := by
    cases text.letterSpacing with
    | percent value =>
      exact declaresOnly_ite declaresOnly_nil (declaresOnly_singleton.2 (by decide))
    | pixels value => exact declaresOnly_ite declaresOnly_nil (declaresOnly_singleton.2 (by decide))
  have align : Paints (alignDeclarations text.align) := by
    cases text.align <;> decide
  have case : Paints (caseDeclarations text.case) := by
    cases text.case <;> decide
  have decoration : Paints (decorationDeclarations text.decoration) := by
    cases text.decoration <;> decide
  have overflow : Paints (overflowDeclarations text.autoResize) := by
    cases text.autoResize <;> decide
  simp only [textDeclarations, Paints, declaresOnly_append, declaresOnly_singleton]
  exact ⟨⟨⟨⟨⟨⟨⟨⟨by decide, weight⟩, lineHeight⟩, letterSpacing⟩, align⟩, case⟩, decoration⟩,
    overflow⟩,
    declaresOnly_ite (Appearance.paints_textPaint options layer.fills) declaresOnly_nil⟩

end Typography

/-! ### Sizes -/

namespace Layout

theorem dimension_mem_sizeProperties (axis : Scene.Axis) : dimension axis ∈ sizeProperties := by
  cases axis <;> decide

theorem isSize_dimensionDeclarations (layer : Layer) (placement : Placement) (axis : Scene.Axis) :
    ∀ d ∈ dimensionDeclarations layer placement axis, IsSize d := by
  intro d mem
  unfold dimensionDeclarations at mem
  split at mem
  · obtain rfl := List.mem_singleton.1 mem
    exact ⟨dimension_mem_sizeProperties axis, isOneLine_px _⟩
  · cases mem

theorem isSize_sizeIn (placement : Placement) (layer : Layer) :
    ∀ d ∈ (sizeIn placement layer).declarations, IsSize d :=
  List.forall_mem_append.2
    ⟨isSize_dimensionDeclarations layer placement .horizontal,
      isSize_dimensionDeclarations layer placement .vertical⟩

end Layout

/-! ### Places -/

/-- The properties that move a node from where it lies. -/
def shiftingProperties : List String := ["transform-origin", "transform", "z-index"]

/-- The properties of the edges of a node along an axis. -/
def edgeProperties (axis : Scene.Axis) : List String :=
  [(Position.edges axis).1, (Position.edges axis).2.1]

/-- The properties that place a node. -/
def placingProperties : List String :=
  ["position", "left", "right", "top", "bottom", "transform-origin", "transform", "z-index"]

namespace Position

theorem edges_anchor (axis : Scene.Axis) (constraint : Scene.Constraint)
    (offset size extent : Single) :
    DeclaresOnly (edgeProperties axis)
      (anchor axis constraint offset size extent).declarations := by
  have near : (edges axis).1 ∈ edgeProperties axis := List.mem_cons_self
  have far : (edges axis).2.1 ∈ edgeProperties axis := List.mem_cons_of_mem _ List.mem_cons_self
  cases constraint with
  | min => exact declaresOnly_singleton.2 near
  | max => exact declaresOnly_singleton.2 far
  | stretch => exact declaresOnly_cons.2 ⟨near, declaresOnly_singleton.2 far⟩
  | center => exact declaresOnly_singleton.2 near

/-- What moves a node from where it lies. -/
def shifts (layer : Layer) (anchors : List Anchor) (order : Int) (rotated : Bool) :
    List Declaration :=
  let transforms := anchors.filterMap Anchor.shift ++ if rotated then [rotation layer] else []
  (if rotated then [⟨"transform-origin", "0 0"⟩] else []) ++
    (if transforms.isEmpty then [] else [⟨"transform", " ".intercalate transforms⟩]) ++
    [⟨"z-index", toString order⟩]

theorem shifting_shifts (layer : Layer) (anchors : List Anchor) (order : Int) (rotated : Bool) :
    DeclaresOnly shiftingProperties (shifts layer anchors order rotated) := by
  simp only [shifts, declaresOnly_append]
  exact ⟨⟨declaresOnly_ite (declaresOnly_singleton.2 (by decide)) declaresOnly_nil,
    declaresOnly_ite declaresOnly_nil (declaresOnly_singleton.2 (by decide))⟩,
    declaresOnly_singleton.2 (by decide)⟩

variable {layer : Layer} {container : Container}

/-- A node in a flow is only moved. -/
theorem placeAt_of_hasInFlow (flow : container.hasInFlow layer = true) (offset : Single × Single)
    (order : Int) (rotated : Bool) :
    placeAt layer container offset order rotated = shifts layer [] order rotated := by
  simp only [placeAt, flow, if_true, List.nil_append, List.flatMap_nil]
  rfl

/-- A node out of a flow is absolute, has edges along both axes, and is moved besides. -/
theorem placeAt_of_not_hasInFlow (free : container.hasInFlow layer = false)
    (offset : Single × Single) (order : Int) (rotated : Bool) :
    let horizontal :=
      anchor .horizontal layer.constraints.horizontal offset.1 layer.width container.width
    let vertical :=
      anchor .vertical layer.constraints.vertical offset.2 layer.height container.height
    placeAt layer container offset order rotated =
      ⟨"position", "absolute"⟩ :: (horizontal.declarations ++
        (vertical.declarations ++ shifts layer [horizontal, vertical] order rotated)) := by
  simp only [placeAt, free, Bool.false_eq_true, if_false, List.flatMap_cons, List.flatMap_nil,
    List.append_nil, List.append_assoc, List.cons_append, List.nil_append, shifts]

theorem places_placeAt (layer : Layer) (container : Container) (offset : Single × Single)
    (order : Int) (rotated : Bool) :
    DeclaresOnly placingProperties (placeAt layer container offset order rotated) := by
  cases flow : container.hasInFlow layer with
  | true =>
    rw [placeAt_of_hasInFlow flow]
    exact (shifting_shifts layer [] order rotated).mono (by decide)
  | false =>
    rw [placeAt_of_not_hasInFlow flow, declaresOnly_cons, declaresOnly_append, declaresOnly_append]
    exact ⟨by decide, (edges_anchor _ _ _ _ _).mono (by decide),
      (edges_anchor _ _ _ _ _).mono (by decide), (shifting_shifts _ _ _ _).mono (by decide)⟩

end Position

namespace Emission

theorem places_positionStyle (options : Options) (layer : Layer) (slot : Slot) :
    DeclaresOnly placingProperties (positionStyle options layer slot) := by
  cases slot with
  | root => exact declaresOnly_nil
  | child container placement index count => exact Position.places_placeAt _ _ _ _ _

theorem places_anchoring {style : List Declaration} (h : DeclaresOnly placingProperties style) :
    DeclaresOnly placingProperties (anchoring style) :=
  declaresOnly_ite h (declaresOnly_cons.2 ⟨by decide, h⟩)

theorem paints_picturePaint (options : Options) (layer : Layer) (asset : Picture.Asset) :
    Paints (picturePaint options layer asset) := by
  refine declaresOnly_append.2 ⟨?_, Appearance.paints_layerDeclarations options layer⟩
  cases asset with
  | svg text => exact declaresOnly_nil
  | placeholder =>
    exact declaresOnly_cons.2 ⟨by decide,
      declaresOnly_ite (declaresOnly_singleton.2 (by decide)) declaresOnly_nil⟩

/-! ### What a node declares by itself -/

/-- The request for what a node declares, if it declares anything. -/
theorem ownRequest?_cases {layer : Layer} {declarations : List Declaration} {request : Request}
    (h : ownRequest? layer declarations = some request) :
    request.declarations = lastOfEach declarations ∧ lastOfEach declarations ≠ [] := by
  unfold ownRequest? at h
  simp only at h
  split at h
  · cases h
  · next nonempty =>
    obtain rfl := Option.some.inj h
    exact ⟨rfl, mt List.isEmpty_iff.2 nonempty⟩

/-- A node declares by itself what is among its declarations. -/
theorem ownRequest?_declares_iff {layer : Layer} {declarations : List Declaration} {p : String} :
    (∃ request, ownRequest? layer declarations = some request ∧
      p ∈ request.declarations.map Declaration.property) ↔
      p ∈ declarations.map Declaration.property := by
  have kept : p ∈ (lastOfEach declarations).map Declaration.property ↔
      p ∈ declarations.map Declaration.property := by
    rw [List.mem_map, ← declares_iff, declares_lastOfEach, declares_iff, List.mem_map]
  constructor
  · rintro ⟨request, own, sets⟩
    rw [(ownRequest?_cases own).1] at sets
    exact kept.1 sets
  · intro sets
    have nonempty : lastOfEach declarations ≠ [] := by
      intro empty
      rw [empty] at kept
      cases kept.2 sets
    exact ⟨_, if_neg (mt List.isEmpty_iff.1 nonempty), kept.2 sets⟩

/-- Paint is not size. -/
theorem paint_not_size : ∀ p ∈ paintProperties, Css.IsPlain p ∧ p ∉ sizeProperties := by decide

/-- What a node without a size declares shares a class with paint only. -/
theorem within_paint {layer : Layer} {paint : List Declaration} (paints : Paints paint)
    {request : Request} (h : ownRequest? layer paint = some request) :
    request.Within paintProperties := by
  obtain ⟨declares, nonempty⟩ := ownRequest?_cases h
  have kept := paints.lastOfEach
  have nodup := nodup_lastOfEach paint
  cases shape : lastOfEach paint with
  | nil => exact absurd shape nonempty
  | cons first rest =>
    rw [shape] at declares kept nodup
    exact Request.within_of_cons_unsized declares
      (family_of_paint _ (kept first List.mem_cons_self))
      paint_not_size kept nodup

/-- What a node declares shares a class with sizes and paint only. -/
theorem within_ownRequest? {layer : Layer} {sizes paint : List Declaration}
    (isSize : ∀ d ∈ sizes, IsSize d) (paints : Paints paint) {request : Request}
    (h : ownRequest? layer (sizes ++ paint) = some request) :
    request.Within (sizeProperties ++ paintProperties) := by
  obtain ⟨declares, nonempty⟩ := ownRequest?_cases h
  have nodup := nodup_lastOfEach (sizes ++ paint)
  -- What is kept of the sizes still stands in front of what is kept of the paint.
  obtain ⟨keptSizes, keptPaint, shape, ofSizes, ofPaint⟩ :=
    List.sublist_append_iff.1 (lastOfEach_sublist (sizes ++ paint))
  have paintOnly := paints.sublist ofPaint
  have sizeOnly : ∀ d ∈ keptSizes, IsSize d := fun d mem => isSize d (ofSizes.subset mem)
  have first : SizesFirst keptSizes keptPaint :=
    ⟨sizeOnly, fun d mem => paint_not_size _ (paintOnly d mem)⟩
  rw [shape] at declares nonempty nodup
  have inside : ∀ d ∈ keptSizes ++ keptPaint, d.property ∈ sizeProperties ++ paintProperties := by
    refine List.forall_mem_append.2 ⟨fun d mem => ?_, fun d mem => ?_⟩
    · exact List.mem_append_left _ (sizeOnly d mem).1
    · exact List.mem_append_right _ (paintOnly d mem)
  cases keptSizes with
  | cons size rest =>
    exact Request.within_of_cons declares (family_of_size (sizeOnly size List.mem_cons_self).1)
      (by decide) inside nodup ⟨_, _, rfl, first⟩
  | nil =>
    cases keptPaint with
    | nil => exact absurd rfl nonempty
    | cons paint rest =>
      have within := Request.within_of_cons_unsized declares
        (family_of_paint _ (paintOnly paint List.mem_cons_self)) paint_not_size paintOnly nodup
      exact ⟨within.orderly, List.subset_append_of_subset_right _ within.family⟩

end Emission

end SceneMarkup
