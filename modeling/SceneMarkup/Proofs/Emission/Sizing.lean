import SceneMarkup.Proofs.Emission.Anchoring
import SceneMarkup.Proofs.Emission.RuleOrder
import SceneMarkup.Proofs.Position.Edges

/-!
# Sizes and places agree

A node gets its size from one part of the program and its place from another, and each relies on the
other: a size is left out because both edges are given, and edges are because a flow places the
node.

* `Registry.Sets`, `Registry.Uses`: the classes of an element set a property, and one of them is a
  utility;
* `NamedDuring.sets_iff`, `NamedDuring.uses_iff`: they do so exactly if the sketch of the element
  asks for it;
* `IsBox.asks_size_iff`, `IsBox.asks_flow_iff`: what the sketch of a node asks for;
* `IsBox.isAbsolute_iff`, `IsBox.hasBothEdges_iff`: where its style places it;
* `SizedAsPlaced`: what the size of an element says agrees with where it is placed;
* `sizes_agree_with_places`: so it is for every node below the root of a tree, but for rotated
  pictures.
-/

namespace SceneMarkup

open Css (Declaration declares lineProperty)
open Position (Container)
open Scene (Axis Layer Node Visit visitsAt)

/-! ### What the classes of an element say -/

namespace Registry

/-- Some class of an element has a rule that declares a property. -/
def Sets (registry : Registry) (element : Markup) (property : String) : Prop :=
  ∃ rule ∈ matching registry.rules element.classes, property ∈ rule.properties

/-- Some class of an element stands for a utility. -/
def Uses (registry : Registry) (element : Markup) (utility : Request) : Prop :=
  ∃ className ∈ element.classes, registry.ruleText? className = some utility.ruleText

end Registry

namespace Sketch

variable {last : Registry} {sketch : Sketch} {markup : Markup}

theorem NamedDuring.uses_iff (named : sketch.NamedDuring last markup) {utility : Request} :
    last.Uses markup utility ↔ ∃ request ∈ sketch.shown, request.ruleText = utility.ruleText := by
  constructor
  · rintro ⟨className, mem, stands⟩
    obtain ⟨request, shown, text⟩ := exists_of_forall₂ named.forall₂_classes mem
    exact ⟨request, shown, Option.some.inj (text.symm.trans stands)⟩
  · rintro ⟨request, shown, same⟩
    obtain ⟨className, mem, text⟩ := exists_of_forall₂ named.forall₂_classes.flip shown
    exact ⟨className, mem, same ▸ text⟩

/-- The classes of an element set the sizes that its sketch asks for. -/
theorem NamedDuring.sets_iff (wellNamed : last.WellNamed) (orderly : last.AllOrderly)
    (named : sketch.NamedDuring last markup)
    (asked : ∀ request ∈ sketch.shown, Orderly request.declarations) {p : String}
    (isSize : p ∈ sizeProperties) :
    last.Sets markup p ↔
      ∃ request ∈ sketch.shown, p ∈ request.declarations.map Declaration.property := by
  constructor
  · rintro ⟨rule, applies, declared⟩
    obtain ⟨known, mem⟩ := mem_matching.1 applies
    obtain ⟨request, shown, stands⟩ := exists_of_forall₂ named.forall₂_classes mem
    obtain ⟨other, knownOther, same, text⟩ := wellNamed.ruleText?_eq_some_iff.1 stands
    obtain rfl := wellNamed.eq_of_className knownOther known same
    exact ⟨request, shown,
      (orderly.size_mem_iff known (asked request shown) text isSize).1 declared⟩
  · rintro ⟨request, shown, declared⟩
    obtain ⟨className, mem, stands⟩ := exists_of_forall₂ named.forall₂_classes.flip shown
    obtain ⟨rule, known, rfl, text⟩ := wellNamed.ruleText?_eq_some_iff.1 stands
    exact ⟨rule, mem_matching.2 ⟨known, mem⟩,
      (orderly.size_mem_iff known (asked request shown) text isSize).2 declared⟩

end Sketch

namespace Emission

open Layout (Placement axisSizing containerTables dimension itemTable sizeIn)
open Picture (Assets)

/-! ### What a box asks for -/

variable {options : Options} {layer : Layer} {slot : Slot} {head : SketchHead}

/-- What a box asks for it declares by itself, sizes it in a flow, or is something else. -/
theorem IsBox.shown_cases (box : IsBox options layer slot head) {request : Request}
    (asked : request ∈ head.styling.shown) :
    (head.styling.own = some request ∧ request.Within (sizeProperties ++ paintProperties)) ∨
      (request ∈ head.styling.sizing ∧ ∃ entry ∈ itemTable, request.Within entry) ∨
      ∃ entry ∈ containerTables.flatten ++ [["font-size"]], request.Within entry := by
  obtain ⟨table, isTable, own, layout, sizing, extra⟩ := box.fits
  simp only [Styling.shown, List.mem_append] at asked
  rcases asked with ((inOwn | inLayout) | inSizing) | inExtra
  · obtain ⟨entry, listed, within⟩ := own.within request inOwn
    obtain rfl := List.mem_singleton.1 listed
    exact .inl ⟨Option.mem_toList.1 inOwn, within⟩
  · obtain ⟨entry, listed, within⟩ := layout.within request inLayout
    exact .inr (.inr ⟨entry, List.mem_append_left _ (List.mem_flatten_of_mem isTable listed),
      within⟩)
  · exact .inr (.inl ⟨inSizing, sizing.within request inSizing⟩)
  · obtain ⟨entry, listed, within⟩ := extra.within request inExtra
    exact .inr (.inr ⟨entry, List.mem_append_right _ listed, within⟩)

/-- A request that declares a size is the one for what the node declares by itself. -/
theorem IsBox.own_of_size (box : IsBox options layer slot head) {request : Request}
    (asked : request ∈ head.styling.shown) {p : String} (isSize : p ∈ sizeProperties)
    (sets : p ∈ request.family) : head.styling.own = some request := by
  have other : ∀ entry ∈ itemTable ++ (containerTables.flatten ++ [["font-size"]]),
      ∀ p ∈ sizeProperties, p ∉ entry := by decide +kernel
  rcases box.shown_cases asked with ⟨own, -⟩ | ⟨-, entry, listed, within⟩ | ⟨entry, listed, within⟩
  · exact own
  · exact absurd (within.family sets) (other entry (List.mem_append_left _ listed) p isSize)
  · exact absurd (within.family sets) (other entry (List.mem_append_right _ listed) p isSize)

/-- A request that sizes a node in a flow is one of those that are for that. -/
theorem IsBox.sizing_of_item (box : IsBox options layer slot head) {request : Request}
    (asked : request ∈ head.styling.shown) {p : String} (isItem : p ∈ itemTable.flatten)
    (sets : p ∈ request.family) : request ∈ head.styling.sizing := by
  have other : ∀ entry ∈ (sizeProperties ++ paintProperties) ::
      (containerTables.flatten ++ [["font-size"]]), ∀ p ∈ itemTable.flatten, p ∉ entry := by
    decide +kernel
  rcases box.shown_cases asked with ⟨-, within⟩ | ⟨sizing, -⟩ | ⟨entry, listed, within⟩
  · exact absurd (within.family sets) (other _ List.mem_cons_self p isItem)
  · exact sizing
  · exact absurd (within.family sets) (other entry (List.mem_cons_of_mem _ listed) p isItem)

/-- A node declares the sizes that it has in its placement. -/
theorem IsBox.asks_size_iff (box : IsBox options layer slot head) {p : String}
    (isSize : p ∈ sizeProperties) :
    (∃ request ∈ head.styling.shown, p ∈ request.declarations.map Declaration.property) ↔
      p ∈ (sizeIn slot.placement layer).declarations.map Declaration.property := by
  obtain ⟨paint, paints, isOwn⟩ := box.own
  have unpainted : p ∉ paint.map Declaration.property := fun painted =>
    (paint_not_size p (paints.map_subset painted)).2 isSize
  have declared :
      p ∈ ((sizeIn slot.placement layer).declarations ++ paint).map Declaration.property ↔
      p ∈ (sizeIn slot.placement layer).declarations.map Declaration.property := by
    rw [List.map_append, List.mem_append, or_iff_left unpainted]
  rw [← declared, ← ownRequest?_declares_iff, ← isOwn]
  constructor
  · rintro ⟨request, asked, sets⟩
    obtain ⟨d, mem, rfl⟩ := List.mem_map.1 sets
    have related := (box.composed.orderly request asked).related d mem
    exact ⟨request, box.own_of_size asked isSize related, sets⟩
  · rintro ⟨request, own, sets⟩
    refine ⟨request, ?_, sets⟩
    simp [Styling.shown, own]

/-- A size that a node has in a placement is one that is fixed and not given by its edges. -/
theorem dimension_mem_sizeIn_iff {placement : Placement} {axis : Axis} :
    dimension axis ∈ (sizeIn placement layer).declarations.map Declaration.property ↔
      axisSizing layer axis placement = .fixed ∧ Layout.isPinned layer axis placement = false := by
  have along : ∀ other, dimension axis ∈
      (Layout.dimensionDeclarations layer placement other).map Declaration.property ↔
        axis = other ∧ axisSizing layer other placement = .fixed ∧
          Layout.isPinned layer other placement = false := by
    intro other
    have same : dimension axis = dimension other ↔ axis = other := by
      cases axis <;> cases other <;> decide
    unfold Layout.dimensionDeclarations
    split
    · next fixed =>
      rw [Bool.and_eq_true_iff, decide_eq_true_iff, Bool.not_eq_true'] at fixed
      rw [List.map_singleton, List.mem_singleton, same, and_iff_left fixed]
    · next loose =>
      rw [Bool.and_eq_true_iff, decide_eq_true_iff, Bool.not_eq_true'] at loose
      exact iff_of_false List.not_mem_nil fun ⟨_, fixed⟩ => loose fixed
  simp only [sizeIn, List.map_append, List.mem_append, along]
  cases axis <;> simp

/-- A node asks for a utility that sizes it in a flow exactly if its placement has it. -/
theorem IsBox.asks_item_iff (box : IsBox options layer slot head) {utility : Request} {p : String}
    (isItem : p ∈ itemTable.flatten) (sets : p ∈ utility.family) :
    (∃ request ∈ head.styling.shown, request.ruleText = utility.ruleText) ↔
      ∃ request ∈ (sizeIn slot.placement layer).requests, request.ruleText = utility.ruleText := by
  rw [← box.sizing]
  constructor
  · rintro ⟨request, asked, same⟩
    have alike : request.family = utility.family :=
      congrArg (fun text => family (lineProperty text)) same
    exact ⟨request, box.sizing_of_item asked isItem (alike ▸ sets), same⟩
  · rintro ⟨request, sizing, same⟩
    refine ⟨request, ?_, same⟩
    simp [Styling.shown, sizing]

/-! ### The utilities of a flow -/

/-- The utility of a node that fills the room along a flow. -/
def growUtility : Request := Layout.fixed "grow" [⟨"flex-grow", "1"⟩, ⟨"flex-basis", "0"⟩]

/-- The utility of a node that fills the room across a flow. -/
def stretchUtility : Request := Layout.fixed "self-stretch" [⟨"align-self", "stretch"⟩]

/-- The utility of a node that keeps its size along a flow. -/
def keepUtility : Request := Layout.fixed "shrink-0" [⟨"flex-shrink", "0"⟩]

/-- The utilities of a node in a flow, by how its axes get their sizes. -/
theorem flowSizeRequests_eq (layer : Layer) (mainAxis : Axis) :
    Layout.flowSizeRequests layer mainAxis =
      (if axisSizing layer mainAxis (.flex mainAxis) = .fill then [growUtility] else []) ++
        (if axisSizing layer (Layout.crossAxis mainAxis) (.flex mainAxis) =
          .fill then [stretchUtility]
          else []) ++
        (if axisSizing layer mainAxis (.flex mainAxis) = .fixed then [keepUtility] else []) :=
  rfl

/-- What a box uses of the utilities of a flow. -/
theorem IsBox.asks_flow_iff (box : IsBox options layer slot head) {mainAxis : Axis}
    (flow : slot.placement = .flex mainAxis) :
    ((∃ request ∈ head.styling.shown, request.ruleText = growUtility.ruleText) ↔
        axisSizing layer mainAxis (.flex mainAxis) = .fill) ∧
      ((∃ request ∈ head.styling.shown, request.ruleText = stretchUtility.ruleText) ↔
        axisSizing layer (Layout.crossAxis mainAxis) (.flex mainAxis) = .fill) ∧
      ((∃ request ∈ head.styling.shown, request.ruleText = keepUtility.ruleText) ↔
        axisSizing layer mainAxis (.flex mainAxis) = .fixed) := by
  have grow : "flex-grow" ∈ growUtility.family := by decide
  have stretch : "align-self" ∈ stretchUtility.family := by decide
  have keep : "flex-shrink" ∈ keepUtility.family := by decide
  have differ : growUtility.ruleText ≠ stretchUtility.ruleText ∧
    growUtility.ruleText ≠ keepUtility.ruleText ∧
    stretchUtility.ruleText ≠ keepUtility.ruleText := by decide
  obtain ⟨growStretch, growKeep, stretchKeep⟩ := differ
  rw [box.asks_item_iff (by decide) grow, box.asks_item_iff (by decide) stretch,
    box.asks_item_iff (by decide) keep, flow]
  have one : ∀ {p : Prop} [Decidable p] {utility : Request} {text : String},
      (∃ request ∈ (if p then [utility] else []), request.ruleText = text) ↔
        p ∧ utility.ruleText = text := by
    intro p _ utility text
    split <;> simp [*]
  simp only [sizeIn, flowSizeRequests_eq, List.mem_append, or_and_right, exists_or, one]
  simp [growStretch, growKeep, stretchKeep, growStretch.symm, growKeep.symm, stretchKeep.symm]

/-! ### Where a box lies -/

/-- The style of a box declares what places the node, and maybe a position besides. -/
theorem IsBox.declares_eq (box : IsBox options layer slot head) {property : String}
    (other : "position" ≠ property) :
    declares head.style property = declares (positionStyle options layer slot) property := by
  rcases box.style with style | style
  · rw [style, Css.declares_lastOfEach]
  · rw [style, Css.declares_lastOfEach, anchoring]
    split
    · rfl
    · rw [declares, List.any_cons, beq_false_of_ne other, Bool.false_or, ← declares]

section Child

variable {container : Container} {placement : Placement} {index count : Nat}

/-- A child is absolute exactly if it is out of any flow. -/
theorem IsBox.isAbsolute_iff
    (box : IsBox options layer (.child container placement index count) head) :
    IsAbsolute head.style ↔ container.hasInFlow layer = false := by
  rw [← Bool.not_eq_true', ← Position.declares_position_placeAt layer container
    (Position.offset options layer container) (Position.stackingOrder container.kind index count)
    (layer.isRotated options.rotationTolerance)]
  constructor
  · intro absolute
    refine Css.declares_iff.2 ⟨⟨"position", "absolute"⟩, ?_, rfl⟩
    rcases box.style with style | style
    · exact Css.lastOfEach_subset _ (style ▸ absolute)
    · have mem := Css.lastOfEach_subset _ (style ▸ absolute)
      rw [anchoring] at mem
      split at mem
      · exact mem
      · exact (List.mem_cons.1 mem).resolve_left (by decide)
  · intro positioned
    -- What is positioned already is made no anchor, and only an absolute position is one.
    have style : head.style = Css.lastOfEach (Position.place options layer container
        (Position.stackingOrder container.kind index count)) := by
      rcases box.style with style | style
      · exact style
      · rw [style, anchoring]
        exact congrArg Css.lastOfEach (if_pos positioned)
    rw [← Css.declares_lastOfEach] at positioned
    obtain ⟨⟨property, value⟩, mem, rfl⟩ := Css.declares_iff.1 positioned
    have absolute := absoluteIfAny_placeAt _ _ _ _ _ _ (Css.lastOfEach_subset _ mem) rfl
    rw [IsAbsolute, style, ← show value = "absolute" from absolute]
    exact mem

/-- The style of a box declares the edges that place the node. -/
theorem IsBox.declares_edge
    (box : IsBox options layer (.child container placement index count) head) {axis : Axis}
    {edge : String} (isEdge : edge ∈ edgeProperties axis) :
    declares head.style edge =
      declares (Position.place options layer container
        (Position.stackingOrder container.kind index count)) edge :=
  box.declares_eq (Position.position_ne_edge axis edge isEdge)

/-- A child in a flow has no edges. -/
theorem IsBox.not_declares_edge
    (box : IsBox options layer (.child container placement index count) head)
    (flow : container.hasInFlow layer = true) {axis : Axis} {edge : String}
    (isEdge : edge ∈ edgeProperties axis) : declares head.style edge = false := by
  rw [box.declares_edge isEdge]
  exact Position.not_declares_edge_of_hasInFlow flow _ _ _ isEdge

/-- Both edges along an axis are given. -/
def HasBothEdges (style : List Declaration) (axis : Axis) : Prop :=
  ∀ edge ∈ edgeProperties axis, declares style edge = true

/-- A child out of any flow has both edges along an axis exactly if it is stretched along it. -/
theorem IsBox.hasBothEdges_iff
    (box : IsBox options layer (.child container placement index count) head)
    (free : container.hasInFlow layer = false) (axis : Axis) :
    HasBothEdges head.style axis ↔ layer.constraints.on axis = .stretch := by
  obtain ⟨at', size, extent, same⟩ := Position.declares_edge_of_not_hasInFlow free
    (Position.offset options layer container) (Position.stackingOrder container.kind index count)
    (layer.isRotated options.rotationTolerance) axis
  rw [← Position.both_edges_anchor_iff axis _ at' size extent]
  refine forall₂_congr fun edge isEdge => ?_
  rw [box.declares_edge isEdge, ← same edge isEdge]
  rfl

end Child

/-! ### Sizes and places -/

/-- What the size of an element says agrees with where it is placed. -/
structure SizedAsPlaced (registry : Registry) (layer : Layer) (container : Container)
    (placement : Placement) (element : Markup) : Prop where
  /-- What sizes the node and what places it agree on whether it is in a flow, -/
  agrees : placement = .absolute ↔ container.hasInFlow layer = false
  /-- and so does the element. -/
  absolute_iff : IsAbsolute element.style ↔ placement = .absolute
  /-- Out of a flow, a fixed size is declared unless the constraint stretches the node, -/
  dimension_of_absolute : placement = .absolute → ∀ axis,
    (registry.Sets element (dimension axis) ↔
      axisSizing layer axis placement = .fixed ∧ layer.constraints.on axis ≠ .stretch)
  /-- in which case both edges are, -/
  edges_of_absolute : placement = .absolute → ∀ axis,
    (HasBothEdges element.style axis ↔ layer.constraints.on axis = .stretch)
  /-- so exactly one of the two determines an axis that is fixed. -/
  determined : placement = .absolute → ∀ axis, axisSizing layer axis placement = .fixed →
    (registry.Sets element (dimension axis) ↔ ¬ HasBothEdges element.style axis)
  /-- In a flow, a size is declared if it is fixed, -/
  dimension_of_flow : placement ≠ .absolute → ∀ axis,
    (registry.Sets element (dimension axis) ↔ axisSizing layer axis placement = .fixed)
  /-- no edge is, -/
  edges_of_flow : placement ≠ .absolute → ∀ axis, ∀ edge ∈ edgeProperties axis,
    declares element.style edge = false
  /-- and a flow along an axis is told what the node does in it. -/
  utilities : ∀ mainAxis, placement = .flex mainAxis →
    (registry.Uses element growUtility ↔ axisSizing layer mainAxis placement = .fill) ∧
      (registry.Uses element stretchUtility ↔
        axisSizing layer (Layout.crossAxis mainAxis) placement = .fill) ∧
      (registry.Uses element keepUtility ↔ axisSizing layer mainAxis placement = .fixed)

/-- An element that is named for a box is sized as it is placed. -/
theorem IsBox.sizedAsPlaced {last : Registry} (wellNamed : last.WellNamed)
    (orderly : last.AllOrderly) {container : Container} {placement : Placement} {index count : Nat}
    {children : List Sketch} {element : Markup}
    (named : (Sketch.element head children).NamedDuring last element)
    (box : IsBox options layer (.child container placement index count) head)
    (agrees : placement = .absolute ↔ container.hasInFlow layer = false) :
    SizedAsPlaced last layer container placement element := by
  have style : element.style = head.style := named.spelled_shown.2
  have sets_iff : ∀ axis, last.Sets element (dimension axis) ↔
      axisSizing layer axis placement = .fixed ∧ Layout.isPinned layer axis placement = false := by
    intro axis
    have isSize := Layout.dimension_mem_sizeProperties axis
    rw [named.sets_iff wellNamed orderly box.composed.orderly isSize]
    exact (box.asks_size_iff isSize).trans dimension_mem_sizeIn_iff
  have pinned_iff : placement = .absolute → ∀ axis, Layout.isPinned layer axis placement = false ↔
      layer.constraints.on axis ≠ .stretch := by
    rintro rfl axis
    simp [Layout.isPinned]
  have edges := fun absolute => box.hasBothEdges_iff (agrees.1 absolute)
  rw [← style] at edges
  refine ⟨agrees, ?_, fun absolute axis => ?_, edges, fun absolute axis fixed => ?_,
    fun inFlow axis => ?_, fun inFlow axis edge isEdge => ?_, ?_⟩
  · rw [style, box.isAbsolute_iff, agrees]
  · rw [sets_iff, pinned_iff absolute]
  · rw [sets_iff, pinned_iff absolute, edges absolute, and_iff_right fixed]
  · rw [sets_iff, and_iff_left]
    simp [Layout.isPinned, inFlow]
  · rw [style]
    exact box.not_declares_edge (eq_true_of_ne_false (mt agrees.2 inFlow)) isEdge
  · rintro mainAxis rfl
    have asks := box.asks_flow_iff rfl
    exact ⟨named.uses_iff.trans asks.1, named.uses_iff.trans asks.2.1,
      named.uses_iff.trans asks.2.2⟩

/-! ### Trees -/

/-- The nodes below a root that emission meets, but for rotated pictures. -/
def boxVisits (options : Options) (root : Node) : List Visit :=
  (visitsAt Layer.isContainer [] root).filter fun visit =>
    !visit.1.isEmpty &&
      !(visit.2.layer.isVectorLike && visit.2.layer.isRotated options.rotationTolerance)

/-- What is met below a root is met in a slot of its container. -/
theorem Slotted.cases_root {root : Node} {visit : Visit} {slot : Slot}
    (met : Slotted [] root .root visit slot) :
    visit = ([], root) ∧ slot = .root ∨
      ∃ container placement index count, slot = .child container placement index count ∧
        (placement = .absolute ↔ container.hasInFlow visit.2.layer = false) := by
  cases met with
  | start => exact .inl ⟨rfl, rfl⟩
  | child above shown slotIn =>
    have agrees := slotIn.agrees
    cases slotIn with
    | own isContainer alone => exact .inr ⟨_, _, _, _, rfl, agrees⟩
    | covered isContainer isMask covers => exact .inr ⟨_, _, _, _, rfl, agrees⟩

/-- **Sizes and places agree on every child.** Whatever was emitted before, and is emitted after a
tree: what sizes a node of the tree and what places it agree on whether the node is in a flow, in
its container as well as in the box of a mask. And every node below the root, but for rotated
pictures, has an element of its own, in order, whose size agrees with where it is placed. -/
theorem sizes_agree_with_places {assets : Assets} {root : Node} {before : List Node} {tree : Markup}
    (emitted : (emitRoot options assets (sheetAfter options assets {} before) root).1 = .ok tree)
    (after : List Node) :
    let registry := (sheetAfter options assets {} (before ++ root :: after)).registry
    (∀ visit slot, Slotted [] root .root visit slot → slot.Agrees visit.2.layer) ∧
      List.SublistForall₂ (fun visit element => ∃ container placement index count,
          Slotted [] root .root visit (.child container placement index count) ∧
          (drawn options assets visit.2 (.child container placement index count)).NamedAs element ∧
          SizedAsPlaced registry visit.2.layer container placement element)
        (boxVisits options root) tree.subtrees := by
  intro registry
  have faithful := (faithful_sheetAfter options assets faithful_start before).1
  have later := (faithful_sheetAfter options assets faithful_start (before ++ root :: after)).1
  have orderly : registry.AllOrderly := allOrderly_sheetAfter Registry.allOrderly_empty _
  have named := namedDuring_emitRoot options assets faithful emitted after
  rw [← sheetAfter_append] at named
  have sound := (faults_rootSketch_eq_nil_iff root).1
    ((Sketch.exists_name_ok_iff _ _).1 ⟨tree, emitted⟩)
  constructor
  · intro visit slot met
    rcases met.cases_root with ⟨-, rfl⟩ | ⟨container, placement, index, count, rfl, agrees⟩
    · trivial
    · exact agrees
  · refine sublistForall₂_imp (sublistForall₂_filter (sublistForall₂_subtrees sound named) _) ?_
    rintro visit mem element ⟨slot, met, here⟩
    obtain ⟨reaches, kept⟩ := List.mem_filter.1 mem
    rw [Bool.and_eq_true_iff, Bool.not_eq_true', Bool.not_eq_true'] at kept
    obtain ⟨below, upright⟩ := kept
    rcases met.cases_root with ⟨rfl, -⟩ | ⟨container, placement, index, count, rfl, agrees⟩
    · cases below
    · have whole := sound visit.2 (List.mem_map_of_mem reaches)
      refine ⟨container, placement, index, count, met, here.namedAs, ?_⟩
      obtain ⟨head, children, same, box⟩ :=
        isBox_drawn whole upright (.child container placement index count)
      rw [same] at here
      exact box.sizedAsPlaced later.toWellNamed orderly here agrees

/-- A row with a box that fills it, a box that is stretched out of it, a mask, and a picture that
the mask covers. -/
def sizedRow : Node :=
  .mk { id := "7:1", kind := .frame { mode := .horizontal } }
    [.mk { id := "7:2", kind := .rectangle, sizingHorizontal := some .fill } [],
      .mk { id := "7:3", kind := .rectangle, positioning := .absolute,
            constraints := { horizontal := .stretch } } [],
      .mk { id := "7:4", kind := .rectangle, isMask := true } [],
      .mk { id := "7:5", kind := .ellipse } []]

theorem sizedRow_agrees_with_places :
    ∃ tree, (emitRoot {} {} (sheetAfter {} {} {} [misleadingRow]) sizedRow).1 = .ok tree ∧
      let registry := (sheetAfter {} {} {} ([misleadingRow] ++ sizedRow :: [unplaced])).registry
      (∀ visit slot, Slotted [] sizedRow .root visit slot → slot.Agrees visit.2.layer) ∧
        List.SublistForall₂ (fun visit element => ∃ container placement index count,
            Slotted [] sizedRow .root visit (.child container placement index count) ∧
            (drawn {} {} visit.2 (.child container placement index count)).NamedAs element ∧
            SizedAsPlaced registry visit.2.layer container placement element)
          (boxVisits {} sizedRow) tree.subtrees := by
  have sound : (rootSketch {} {} sizedRow).faults = [] := by decide +kernel
  obtain ⟨tree, emitted⟩ := (Sketch.exists_name_ok_iff (sheetAfter {} {} {} [misleadingRow])
    (rootSketch {} {} sizedRow)).2 sound
  exact ⟨tree, emitted, sizes_agree_with_places emitted [unplaced]⟩

end Emission

end SceneMarkup
