import SceneMarkup.Proofs.Emission.Reach
import SceneMarkup.Proofs.Stylesheet.Keys

/-!
# What a tree asks for

A tree asks for utilities, for what its nodes declare by themselves, and for the shapes of masks.

* `Declares`: what a node may declare by itself: its size, and the paint of its kind;
* `AllAsk`, `allAsk_element_iff`, `allAsk_masked_iff`: what holds of every request of a sketch;
* `allAsk_drawn`: what holds of utilities, of the shapes of masks, and of what the nodes that
  emission reaches declare by themselves holds of every request of a tree;
* `keyed_drawn`: so every utility of a tree declares what its key means.
-/

namespace SceneMarkup.Emission

open Scene (Layer Node TextStyle visitsAt)
open Css (Declaration)
open Layout (IsKeyed IsUtility Placement sizeIn)
open Picture (Asset Assets)

/-- What a node may declare by itself: its size, and the paint of its kind. -/
inductive Declares (options : Options) (layer : Layer) : List Declaration → Prop where
  | letters {text : TextStyle} (isText : layer.kind = .text text) (placement : Placement) :
    Declares options layer
      ((sizeIn placement layer).declarations ++ Typography.textDeclarations options layer text ++
        Appearance.shadowDeclaration "text-shadow" (Appearance.textShadows options layer) ++
        Appearance.blurs layer ++ Appearance.layerDeclarations options layer)
  | box (placement : Placement) :
    Declares options layer
      ((sizeIn placement layer).declarations ++ Appearance.boxDeclarations options layer)
  | container (placement : Placement) :
    Declares options layer
      ((sizeIn placement layer).declarations ++ Appearance.boxDeclarations options layer ++
        if layer.frame?.any Scene.Frame.clipsContent then [⟨"overflow", "hidden"⟩] else [])
  | picture (placement : Placement) (asset : Asset) :
    Declares options layer
      ((sizeIn placement layer).declarations ++ picturePaint options layer asset)
  | rotatedPicture (asset : Asset) : Declares options layer (picturePaint options layer asset)

/-- Every request of a sketch is of a kind. -/
def AllAsk (kind : Request → Prop) (sketch : Sketch) : Prop :=
  ∀ request ∈ sketch.requests, kind request

section Kinds

variable {kind : Request → Prop}

/-- An element asks for what it is styled with, and for what is in it. -/
theorem allAsk_element_iff {head : SketchHead} {children : List Sketch} :
    AllAsk kind (.element head children) ↔
      (∀ request ∈ head.styling.requests, kind request) ∧ ∀ child ∈ children,
        AllAsk kind child := by
  rw [AllAsk, Sketch.requests, Sketch.requestsIn_eq_flatMap, List.forall_mem_append,
    List.forall_mem_flatMap]
  rfl

/-- The box of a mask asks for what is in it, and for its shape. -/
theorem allAsk_masked_iff {clip : Option Request} {style : List Declaration}
    {children : List Sketch} :
    AllAsk kind (.masked clip style children) ↔
      (∀ child ∈ children, AllAsk kind child) ∧ ∀ request ∈ clip.toList, kind request := by
  rw [AllAsk, Sketch.requests, Sketch.requestsIn_eq_flatMap, List.forall_mem_append,
    List.forall_mem_flatMap]
  rfl

theorem allAsk_fault (id : String) : AllAsk kind (.fault id) := fun _ mem => by cases mem

theorem allAsk_element {head : SketchHead} {children : List Sketch}
    (sizing : ∀ request ∈ head.styling.sizing, kind request)
    (own : ∀ request ∈ head.styling.own.toList, kind request)
    (layout : ∀ request ∈ head.styling.layout, kind request)
    (extra : ∀ request ∈ head.styling.extra, kind request)
    (inside : ∀ child ∈ children, AllAsk kind child) : AllAsk kind (.element head children) := by
  refine allAsk_element_iff.2 ⟨?_, inside⟩
  simp only [Styling.requests, List.forall_mem_append]
  exact ⟨sizing, own, layout, extra⟩

/-- Nothing is asked for. -/
theorem forall_mem_nil : ∀ request ∈ ([] : List Request), kind request := fun _ mem => by cases mem

/-- Nothing is in an element. -/
theorem allAsk_nothing : ∀ child ∈ ([] : List Sketch), AllAsk kind child :=
  fun _ mem => by cases mem

/-! ### Nodes -/

variable {options : Options} {layer : Layer}
  (utility : ∀ request, IsUtility request → kind request)
  (own : ∀ declarations, Declares options layer declarations →
    ∀ request ∈ (ownRequest? layer declarations).toList, kind request)

include utility own

theorem allAsk_textSketch {text : TextStyle} (isText : layer.kind = .text text) (slot : Slot) :
    AllAsk kind (textSketch options layer text slot) := by
  refine allAsk_element
    (fun request mem => utility request (Layout.isUtility_sizeIn _ _ request mem))
    (own _ (.letters isText slot.placement)) forall_mem_nil ?_ ?_
  · intro request mem
    rw [List.mem_singleton.1 mem]
    exact utility _ (Layout.isUtility_fontSizeRequest text.fontSize)
  · intro child mem request asked
    rw [(Typography.isContent_textContent options text child mem).requests request asked]
    exact utility _ (.paragraph text.paragraphSpacing)

theorem allAsk_boxSketch (slot : Slot) : AllAsk kind (boxSketch options layer slot) :=
  allAsk_element (fun request mem => utility request (Layout.isUtility_sizeIn _ _ request mem))
    (own _ (.box slot.placement)) forall_mem_nil forall_mem_nil allAsk_nothing

theorem allAsk_pictureSketch (asset : Asset) (slot : Slot) :
    AllAsk kind (pictureSketch options layer asset slot) := by
  unfold pictureSketch
  split
  · refine allAsk_element forall_mem_nil forall_mem_nil forall_mem_nil forall_mem_nil
      fun inner mem => ?_
    rw [List.mem_singleton.1 mem]
    exact allAsk_element forall_mem_nil (own _ (.rotatedPicture asset))
      forall_mem_nil forall_mem_nil
      allAsk_nothing
  · exact allAsk_element
      (fun request mem => utility request (Layout.isUtility_sizeIn _ _ request mem))
      (own _ (.picture slot.placement asset)) forall_mem_nil forall_mem_nil allAsk_nothing

/-- A container asks for its utilities, and for what is in it. -/
theorem allAsk_containerSketch {inside : List Member}
    (children : ∀ sketch ∈ childSketches options layer inside, AllAsk kind sketch) (slot : Slot) :
    AllAsk kind (containerSketch options layer inside slot) := by
  refine allAsk_element
    (fun request mem => utility request (Layout.isUtility_sizeIn _ _ request mem))
    (own _ (.container slot.placement)) ?_ forall_mem_nil children
  intro request mem
  cases frame : layer.frame? with
  | none =>
    rw [frame] at mem
    cases mem
  | some frame' =>
    rw [frame] at mem
    exact utility request (Layout.isUtility_containerRequests frame' request mem)

end Kinds

/-! ### Trees -/

variable {kind : Request → Prop} {options : Options} {assets : Assets}

/-- **What a tree asks for**: what holds of utilities, of the shapes of masks, and of what the nodes
that are reached declare by themselves holds of every request. -/
theorem allAsk_drawn (utility : ∀ request, IsUtility request → kind request)
    (clip : ∀ mask, ∀ request ∈ (clipRequest? options mask).toList, kind request) (node : Node) :
    ∀ slot address,
      (∀ visit ∈ visitsAt Layer.isContainer address node, ∀ declarations,
        Declares options visit.2.layer declarations →
          ∀ request ∈ (ownRequest? visit.2.layer declarations).toList, kind request) →
      AllAsk kind (drawn options assets node slot) := by
  induction node using Node.induct with
  | mk layer children ih =>
    intro slot address each
    rw [Scene.visitsAt_mk] at each
    obtain ⟨own, below⟩ := List.forall_mem_cons.1 each
    by_cases faulty : isFaulty layer = true
    · rw [drawn_of_isFaulty faulty]
      exact allAsk_fault layer.id
    rw [Bool.not_eq_true] at faulty
    by_cases goes : layer.isContainer = true
    · rw [drawn_of_isContainer faulty goes]
      rw [if_pos goes] at below
      refine allAsk_containerSketch utility own
        (forall_mem_childSketches (fun child mem place => ?_)
        (fun mask _ _ _ inside => allAsk_masked_iff.2 ⟨inside, clip mask⟩) layer) slot
      exact ih child.1 (Scene.mem_children_of_mem_shownIn mem) place (child.2 :: address)
        fun visit met => below visit (List.mem_flatMap_of_mem mem met)
    · rw [isFaulty, Bool.not_eq_false'] at faulty
      rw [drawn, Node.layer_mk, layerSketch, faulty]
      unfold Layer.isContainer at goes
      cases shape : layer.kind with
      | frame frame => simp [shape] at goes
      | group => simp [shape] at goes
      | text text => exact allAsk_textSketch utility own shape slot
      | rectangle => exact allAsk_boxSketch utility own slot
      | ellipse => exact allAsk_pictureSketch utility own _ slot
      | vector => exact allAsk_pictureSketch utility own _ slot

/-! ### Keys -/

/-- Every request of a sketch is keyed. -/
def AllKeyed (sketch : Sketch) : Prop := ∀ request ∈ sketch.requests, IsKeyed request

theorem allKeyed_element_iff {head : SketchHead} {children : List Sketch} :
    AllKeyed (.element head children) ↔
      (∀ request ∈ head.styling.requests, IsKeyed request) ∧ ∀ child ∈ children, AllKeyed child :=
  allAsk_element_iff

theorem allKeyed_masked_iff {clip : Option Request} {style : List Declaration}
    {children : List Sketch} :
    AllKeyed (.masked clip style children) ↔
      (∀ child ∈ children, AllKeyed child) ∧ ∀ request ∈ clip.toList, IsKeyed request :=
  allAsk_masked_iff

/-- A request for what a node declares by itself is for its text. -/
theorem ownRequest?_eq_own {layer : Layer} {declarations : List Declaration} {request : Request}
    (asked : request ∈ (ownRequest? layer declarations).toList) :
    request = .own (Naming.baseName layer.name layer.id) (Css.lastOfEach declarations) := by
  unfold ownRequest? at asked
  simp only at asked
  split at asked
  · cases asked
  · exact List.mem_singleton.1 asked

/-- A node that declares anything by itself asks for it. -/
theorem own_mem_ownRequest? {layer : Layer} {declarations : List Declaration}
    (nonempty : Css.lastOfEach declarations ≠ []) :
    .own (Naming.baseName layer.name layer.id) (Css.lastOfEach declarations) ∈
      (ownRequest? layer declarations).toList := by
  unfold ownRequest?
  rw [if_neg (mt List.isEmpty_iff.1 nonempty)]
  exact List.mem_singleton_self _

/-- A request for the shape of a mask is for its text. -/
theorem clipRequest?_eq_own {options : Options} {mask : Layer} {request : Request}
    (asked : request ∈ (clipRequest? options mask).toList) :
    request = .own (Naming.baseName mask.name mask.id ++ "-mask")
      (clipDeclarations options mask) := by
  unfold clipRequest? at asked
  simp only at asked
  split at asked
  · cases asked
  · exact List.mem_singleton.1 asked

/-- **Every utility that a node and everything below it ask for declares what its key means.** -/
theorem keyed_drawn (options : Options) (assets : Assets) (node : Node) (slot : Slot) :
    AllKeyed (drawn options assets node slot) := by
  refine allAsk_drawn (fun _ utility => utility.keyed) (fun mask request asked => ?_) node slot []
    fun visit _ declarations _ request asked => ?_
  · rw [clipRequest?_eq_own asked]
    trivial
  · rw [ownRequest?_eq_own asked]
    trivial

end SceneMarkup.Emission
