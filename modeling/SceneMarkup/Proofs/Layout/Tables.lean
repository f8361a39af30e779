import SceneMarkup.Layout.Container
import SceneMarkup.Layout.Sizing
import SceneMarkup.Proofs.Emission.Parts
import SceneMarkup.Proofs.Emission.Properties

/-!
# Tables of utilities

The utilities of a container are some of those in a table, and there are few tables. So what is to
be shown of any two utilities of a container is shown of any two in a table.

* `Fits`: requests that are some of those in a table of properties, in order;
* `gapTables`, `paddingTables`, `flowTable`, `gridTable`, `containerTables`: the tables of
  containers;
* `fits_containerRequests`, `fits_sizeIn`: the utilities of a container, and those that size a node,
  are in their tables;
* `pairwise_elementTable`: no two in a table have to do with each other, nor with what else an
  element has.
-/

namespace SceneMarkup

open Css (Declaration Independent IsPlain)

/-- Requests that are some of those in a table, in order. -/
abbrev Fits (requests : List Request) (table : List (List String)) : Prop :=
  List.SublistForall₂ (fun request properties => request.Within properties) requests table

theorem Fits.orderly {requests : List Request} {table : List (List String)}
    (fits : Fits requests table) : ∀ request ∈ requests, Orderly request.declarations := by
  induction fits with
  | nil => exact fun _ mem => by cases mem
  | cons here _ ih => exact List.forall_mem_cons.2 ⟨here.orderly, ih⟩
  | cons_right _ ih => exact ih

/-- Every request in a table is within an entry of it. -/
theorem Fits.within {requests : List Request} {table : List (List String)}
    (fits : Fits requests table) :
    ∀ request ∈ requests, ∃ properties ∈ table, request.Within properties := by
  induction fits with
  | nil => exact fun _ mem => by cases mem
  | cons here _ ih =>
    refine List.forall_mem_cons.2 ⟨⟨_, List.mem_cons_self, here⟩, fun request mem => ?_⟩
    obtain ⟨properties, listed, within⟩ := ih request mem
    exact ⟨properties, List.mem_cons_of_mem _ listed, within⟩
  | cons_right _ ih =>
    intro request mem
    obtain ⟨properties, listed, within⟩ := ih request mem
    exact ⟨properties, List.mem_cons_of_mem _ listed, within⟩

/-- What is independent of a table is independent of the requests in it. -/
theorem Fits.independent {requests : List Request} {table : List (List String)}
    (fits : Fits requests table) {properties : List String}
    (h : ∀ others ∈ table, Independent properties others) :
    ∀ others ∈ requests.map Request.family, Independent properties others := by
  induction fits with
  | nil => exact fun _ mem => by cases mem
  | cons here _ ih =>
    obtain ⟨first, rest⟩ := List.forall_mem_cons.1 h
    exact List.forall_mem_cons.2 ⟨first.mono (List.Subset.refl _) here.family, ih rest⟩
  | cons_right _ ih => exact ih (List.forall_mem_cons.1 h).2

/-- Requests of a table whose entries are independent of each other are so, too. -/
theorem Fits.pairwise {requests : List Request} {table : List (List String)}
    (fits : Fits requests table) (h : table.Pairwise Independent) :
    (requests.map Request.family).Pairwise Independent := by
  induction fits with
  | nil => exact .nil
  | cons here later ih =>
    obtain ⟨first, rest⟩ := List.pairwise_cons.1 h
    refine .cons (fun others mem => ?_) (ih rest)
    exact (Fits.independent later first others mem).mono here.family (List.Subset.refl _)
  | cons_right _ ih => exact ih (List.pairwise_cons.1 h).2

/-- A request of its own in front of others. -/
theorem fits_cons {request : Request} {requests : List Request} {properties : List String}
    {table : List (List String)} (here : request.Within properties) (later : Fits requests table) :
    Fits (request :: requests) (properties :: table) :=
  .cons here later

theorem fits_singleton {request : Request} {properties : List String}
    (here : request.Within properties) : Fits [request] [properties] :=
  fits_cons here .nil

/-- A utility with one declaration. -/
theorem within_of_singleton {request : Request} {property value : String}
    (declares : request.declarations = [⟨property, value⟩])
    (alone : family property = [property]) (plain : IsPlain property ∧ property ∉ sizeProperties) :
    request.Within [property] :=
  Request.within_of_cons_unsized declares alone (List.forall_mem_singleton.2 plain)
    (List.forall_mem_singleton.2 (List.mem_singleton_self _)) (List.nodup_singleton _)

namespace Layout

open Scene (Axis CounterAlign Frame Layer MainAlign)

/-- A length, unless it rounds to zero. -/
theorem fits_lengthUtility? {property : String} (alone : family property = [property])
    (plain : IsPlain property ∧ property ∉ sizeProperties) (name : String) (length : Single) :
    Fits (lengthUtility? name property length) [[property]] := by
  unfold lengthUtility?
  split
  · exact .nil
  · exact fits_singleton (within_of_singleton rfl alone plain)

/-! ### Paddings and gaps -/

/-- The paddings of a container: one, or one for each side. -/
def paddingTables : List (List (List String)) :=
  [[["padding"]], [["padding-top"], ["padding-right"], ["padding-bottom"], ["padding-left"]]]

theorem fits_paddingRequests (frame : Frame) :
    ∃ table ∈ paddingTables, Fits (paddingRequests frame) table := by
  unfold paddingRequests
  split
  · exact ⟨_, List.mem_cons_self, fits_lengthUtility? (by decide) (by decide) _ _⟩
  · refine ⟨_, List.mem_cons_of_mem _ (List.mem_singleton_self _), ?_⟩
    exact sublistForall₂_append
      (sublistForall₂_append
        (sublistForall₂_append (fits_lengthUtility? (by decide) (by decide) _ _)
          (fits_lengthUtility? (by decide) (by decide) _ _))
        (fits_lengthUtility? (by decide) (by decide) _ _))
      (fits_lengthUtility? (by decide) (by decide) _ _)

/-- The gaps of a container: one, or one for each direction. -/
def gapTables : List (List (List String)) :=
  [[["gap"]], [["row-gap"], ["column-gap"]], [["column-gap"], ["row-gap"]]]

theorem fits_gap (length : Single) : Fits (lengthUtility? "gap" "gap" length) [["gap"]] :=
  fits_lengthUtility? (by decide) (by decide) _ _

theorem fits_rowGap (length : Single) : Fits (rowGap length) [["row-gap"]] :=
  fits_lengthUtility? (by decide) (by decide) _ _

theorem fits_columnGap (length : Single) : Fits (columnGap length) [["column-gap"]] :=
  fits_lengthUtility? (by decide) (by decide) _ _

theorem fits_gridGapRequests (frame : Frame) :
    ∃ table ∈ gapTables, Fits (gridGapRequests frame) table := by
  unfold gridGapRequests
  split
  · exact ⟨[["gap"]], by decide, fits_gap _⟩
  · exact ⟨[["row-gap"], ["column-gap"]], by decide,
      sublistForall₂_append (fits_rowGap _) (fits_columnGap _)⟩

/-! ### Flows -/

/-- The utilities of a flow with some gaps and paddings. -/
def flowTable (gaps paddings : List (List String)) : List (List String) :=
  [family "display", ["flex-direction"]] ++
    ([["flex-wrap"], ["align-content"]] ++ gaps) ++ paddings ++
    [["justify-content"], ["align-items"]]

/-- The lines of a flow that breaks: below each other in a row, side by side in a column. -/
theorem fits_wrapRequests (horizontal : Bool) {frame : Frame} (breaks : frame.wrap = .wrap) :
    Fits (wrapRequests horizontal frame)
      [["flex-wrap"], ["align-content"], [if horizontal then "row-gap" else "column-gap"]] := by
  simp only [wrapRequests, breaks]
  show Fits _
    ([["flex-wrap"]] ++ [["align-content"]] ++ [[if horizontal then "row-gap" else "column-gap"]])
  refine sublistForall₂_append (sublistForall₂_append ?_ ?_) ?_
  · exact fits_singleton (within_of_singleton rfl (by decide) (by decide))
  · split
    · exact fits_singleton (within_of_singleton rfl (by decide) (by decide))
    · exact .nil
  · split
    · cases horizontal with
      | true => exact fits_rowGap _
      | false => exact fits_columnGap _
    · exact .nil

/-- The room between the children of a flow that breaks. -/
theorem fits_spacingRequests (horizontal : Bool) {frame : Frame} (breaks : frame.wrap = .wrap) :
    Fits (spacingRequests horizontal frame)
      [[if horizontal then "column-gap" else "row-gap"]] := by
  simp only [spacingRequests, breaks]
  split
  · exact .nil
  · contradiction
  · cases horizontal with
    | true => exact fits_columnGap _
    | false => exact fits_rowGap _

/-- A flow that does not break has one gap. One that does has one for its lines and another for its
children, and they change places with the direction of the flow. -/
theorem fits_wrapRequests_spacingRequests (horizontal : Bool) (frame : Frame) :
    ∃ gaps ∈ gapTables,
      Fits (wrapRequests horizontal frame ++ spacingRequests horizontal frame)
        ([["flex-wrap"], ["align-content"]] ++ gaps) := by
  cases breaks : frame.wrap with
  | noWrap =>
    refine ⟨[["gap"]], by decide, ?_⟩
    simp only [wrapRequests, spacingRequests, breaks, List.nil_append]
    refine sublistForall₂_append_left ?_ _
    split
    · exact .nil
    · exact fits_gap _
    · contradiction
  | wrap =>
    have both := sublistForall₂_append (fits_wrapRequests horizontal breaks)
      (fits_spacingRequests horizontal breaks)
    cases horizontal with
    | true => exact ⟨[["row-gap"], ["column-gap"]], by decide, both⟩
    | false => exact ⟨[["column-gap"], ["row-gap"]], by decide, both⟩

theorem within_mainAlignRequest (align : MainAlign) :
    (mainAlignRequest align).Within ["justify-content"] := by
  cases align <;> exact within_of_singleton rfl (by decide) (by decide)

theorem within_counterAlignRequest (align : Option CounterAlign) :
    (counterAlignRequest align).Within ["align-items"] := by
  rcases align with _ | align
  · exact within_of_singleton rfl (by decide) (by decide)
  · cases align <;> exact within_of_singleton rfl (by decide) (by decide)

/-- A container that shows its children in some way. -/
theorem within_display (name value : String) :
    (fixed name [⟨"display", value⟩]).Within (family "display") :=
  Request.within_of_cons_unsized rfl rfl (by decide)
    (List.forall_mem_singleton.2 (show "display" ∈ family "display" by decide))
      (List.nodup_singleton _)

theorem fits_flowRequests (horizontal : Bool) (frame : Frame) :
    ∃ gaps ∈ gapTables, ∃ paddings ∈ paddingTables,
      Fits (flowRequests horizontal frame) (flowTable gaps paddings) := by
  obtain ⟨gaps, isGaps, fitsGaps⟩ := fits_wrapRequests_spacingRequests horizontal frame
  obtain ⟨paddings, isPaddings, fitsPaddings⟩ := fits_paddingRequests frame
  refine ⟨gaps, isGaps, paddings, isPaddings, ?_⟩
  have direction : (if horizontal then fixed "flex-row" [⟨"flex-direction", "row"⟩]
      else fixed "flex-col" [⟨"flex-direction", "column"⟩]).Within ["flex-direction"] := by
    cases horizontal <;> exact within_of_singleton rfl (by decide) (by decide)
  have first := fits_cons (within_display "flex" "flex") (fits_singleton direction)
  have last := fits_cons (within_mainAlignRequest frame.mainAlign)
    (fits_singleton (within_counterAlignRequest frame.counterAlign))
  rw [flowRequests, List.append_assoc _ (wrapRequests horizontal frame)]
  exact sublistForall₂_append
    (sublistForall₂_append (sublistForall₂_append first fitsGaps) fitsPaddings) last

/-! ### Grids -/

/-- The utilities of a grid with some gaps and paddings. -/
def gridTable (gaps paddings : List (List String)) : List (List String) :=
  [family "display"] ++ [["grid-template-rows"]] ++ [["grid-template-columns"]] ++ gaps ++ paddings

theorem fits_trackRequests {property : String} (alone : family property = [property])
    (plain : IsPlain property ∧ property ∉ sizeProperties) (name : String) (count : UInt32) :
    Fits (trackRequests name property count) [[property]] := by
  unfold trackRequests
  split
  · exact .nil
  · exact fits_singleton (within_of_singleton rfl alone plain)

theorem fits_gridRequests (frame : Frame) :
    ∃ gaps ∈ gapTables, ∃ paddings ∈ paddingTables,
      Fits (gridRequests frame) (gridTable gaps paddings) := by
  obtain ⟨gaps, isGaps, fitsGaps⟩ := fits_gridGapRequests frame
  obtain ⟨paddings, isPaddings, fitsPaddings⟩ := fits_paddingRequests frame
  refine ⟨gaps, isGaps, paddings, isPaddings, ?_⟩
  have rows : Fits (trackRequests "grid-rows" "grid-template-rows" frame.gridRows)
      [["grid-template-rows"]] := fits_trackRequests (by decide) (by decide) _ _
  have columns : Fits (trackRequests "grid-cols" "grid-template-columns" frame.gridColumns)
      [["grid-template-columns"]] := fits_trackRequests (by decide) (by decide) _ _
  exact sublistForall₂_append
    (sublistForall₂_append
      (sublistForall₂_append
        (sublistForall₂_append (fits_singleton (within_display _ _)) rows) columns)
      fitsGaps) fitsPaddings

/-! ### Containers -/

/-- The utilities of a container, in one of the ways that there are. -/
def containerTables : List (List (List String)) :=
  gapTables.flatMap fun gaps =>
    paddingTables.flatMap fun paddings => [flowTable gaps paddings, gridTable gaps paddings]

theorem mem_containerTables {gaps paddings : List (List String)} (isGaps : gaps ∈ gapTables)
    (isPaddings : paddings ∈ paddingTables) :
    flowTable gaps paddings ∈ containerTables ∧ gridTable gaps paddings ∈ containerTables := by
  constructor <;>
    refine List.mem_flatMap.2 ⟨gaps, isGaps, List.mem_flatMap.2 ⟨paddings, isPaddings, ?_⟩⟩
  · exact List.mem_cons_self
  · exact List.mem_cons_of_mem _ (List.mem_singleton_self _)

/-- The utilities of a container are in one of the tables. -/
theorem fits_containerRequests (frame : Frame) :
    ∃ table ∈ containerTables, Fits (containerRequests frame) table := by
  have flow : ∀ horizontal, ∃ table ∈ containerTables,
      Fits (flowRequests horizontal frame) table := by
    intro horizontal
    obtain ⟨gaps, isGaps, paddings, isPaddings, fits⟩ := fits_flowRequests horizontal frame
    exact ⟨_, (mem_containerTables isGaps isPaddings).1, fits⟩
  unfold containerRequests
  split
  · exact ⟨flowTable [["gap"]] [["padding"]], by decide, .nil⟩
  · exact flow true
  · exact flow false
  · obtain ⟨gaps, isGaps, paddings, isPaddings, fits⟩ := fits_gridRequests frame
    exact ⟨_, (mem_containerTables isGaps isPaddings).2, fits⟩

/-- The utilities that size a node in a flow. -/
def itemTable : List (List String) := [family "flex-grow"] ++ [["align-self"]] ++ [["flex-shrink"]]

theorem fits_ite {request : Request} {properties : List String} (h : request.Within properties)
    {p : Prop} [Decidable p] : Fits (if p then [request] else []) [properties] := by
  split
  · exact fits_singleton h
  · exact .nil

theorem fits_sizeIn (placement : Placement) (layer : Layer) :
    Fits (sizeIn placement layer).requests itemTable := by
  cases placement with
  | root => exact .nil
  | grid => exact .nil
  | absolute => exact .nil
  | flex mainAxis =>
    have grows : (fixed "grow" [⟨"flex-grow", "1"⟩, ⟨"flex-basis", "0"⟩]).Within
        (family "flex-grow") :=
      Request.within_of_cons_unsized rfl rfl (by decide) (by decide) (by decide)
    exact sublistForall₂_append
      (sublistForall₂_append (fits_ite grows)
        (fits_ite (within_of_singleton rfl (by decide) (by decide))))
      (fits_ite (within_of_singleton rfl (by decide) (by decide)))

/-- What an element may have in all: a place, what it declares by itself, the utilities of a
container, those that size it, and the size of its letters. -/
def elementTable (container : List (List String)) : List (List String) :=
  placingProperties ::
    ([sizeProperties ++ paintProperties] ++ container ++ itemTable ++ [["font-size"]])

/-- No two of these have to do with each other. -/
theorem pairwise_elementTable :
    ∀ table ∈ containerTables, (elementTable table).Pairwise Independent := by
  decide +kernel

theorem within_fontSizeRequest (size : Single) : (fontSizeRequest size).Within ["font-size"] :=
  within_of_singleton rfl (by decide) (by decide)

end Layout

end SceneMarkup
