import SceneMarkup.Proofs.Emission.Fonts
import SceneMarkup.Proofs.Numeric.Halves
import SceneMarkup.Proofs.Stylesheet.Resolution

/-!
# The space in containers

The utilities of a frame are made for the nearest whole length, but their rules carry the exact one.
So what a frame sets is read off the rules of its classes, whatever was asked for before and after.

* `Call`, `afterCalls`: what the layout is asked for, and the registry after that;
* `shownLength`: what is set for a length;
* `setBy`: the values that requests give a property;
* `settledFor?`, `settledFor?_eq`: the values that the classes of a frame give a property, as they
  are looked up;
* `setBy_paddingRequests`, `setBy_wrapRequests`, `setBy_spacingRequests`: what each part of a frame
  sets;
* `space_of_frame`: flows set their own gaps, and flows and grids their own paddings;
* `gaps_of_grid`: grids set one gap for both sides if the two round alike.
-/

namespace SceneMarkup.Layout

open Css (Declaration px sets settings)
open Scene (Axis Frame Layer)

/-! ### What the layout is asked for -/

/-- A call of the layout: for a container, for the size of a node, or for the size of letters. -/
inductive Call where
  | container (frame : Frame)
  | sizing (placement : Placement) (layer : Layer)
  | letters (size : Single)

/-- The utilities that a call asks for. -/
def Call.requests : Call → List Request
  | container frame => containerRequests frame
  | sizing placement layer => (sizeIn placement layer).requests
  | letters size => [fontSizeRequest size]

theorem Call.isUtility (call : Call) : ∀ request ∈ call.requests, IsUtility request := by
  cases call with
  | container frame => exact isUtility_containerRequests frame
  | sizing placement layer => exact isUtility_sizeIn placement layer
  | letters size => exact List.forall_mem_singleton.2 (isUtility_fontSizeRequest size)

/-- The registry after some calls. -/
def afterCalls (calls : List Call) : Registry :=
  (Registry.internAll {} (calls.flatMap Call.requests)).2

theorem afterCalls_append (first second : List Call) :
    afterCalls (first ++ second) =
      ((afterCalls first).internAll (second.flatMap Call.requests)).2 := by
  rw [afterCalls, List.flatMap_append, Registry.internAll_append, afterCalls]

/-- The values that the classes of a frame give a property. The frame is met after some calls, and
the classes are looked up after others. -/
def settledFor? (earlier : List Call) (frame : Frame) (later : List Call) (property : String) :
    Option (List String) :=
  (afterCalls (earlier ++ .container frame :: later)).valuesFor?
    ((afterCalls earlier).internAll (containerRequests frame)).1 property

/-- The values that requests give a property. -/
def setBy (requests : List Request) (property : String) : List String :=
  settings (requests.flatMap Request.declarations) property

theorem keyed_calls (calls : List Call) :
    ∀ request ∈ calls.flatMap Call.requests, IsKeyed request := by
  intro request mem
  obtain ⟨call, -, asked⟩ := List.mem_flatMap.1 mem
  exact (call.isUtility request asked).keyed

theorem IsUtility.isReadable {request : Request} (utility : IsUtility request) :
    Registry.IsReadable request.declarations := by
  intro d declared
  have tame := utility.tame.2 d declared
  exact ⟨fun colon => absurd (tame.property.1 _ colon) (by decide), tame.isOneLine⟩

/-- **The classes of a frame set what the frame asks for, whatever was asked for before and
after.** -/
theorem settledFor?_eq (earlier : List Call) (frame : Frame) (later : List Call)
    (property : String) :
    settledFor? earlier frame later property = some (setBy (containerRequests frame) property) := by
  have before := Registry.faithful_empty.internAll (keyed_calls earlier)
  have keyed : ∀ request ∈ containerRequests frame, IsKeyed request := fun request mem =>
    (isUtility_containerRequests frame request mem).keyed
  have grown : (afterCalls (earlier ++ .container frame :: later)).GrownFrom
      ((afterCalls earlier).internAll (containerRequests frame)).2 := by
    rw [afterCalls_append, List.flatMap_cons, Registry.internAll_append]
    exact (before.internAll keyed).grownFrom_internAll (keyed_calls later)
  exact Registry.valuesFor?_internAll before keyed
    (fun request mem => (isUtility_containerRequests frame request mem).isReadable) grown property

/-! ### What requests set -/

/-- What is set for a length. -/
def shownLength (length : Single) : List String := if roundsToZero length then [] else [px length]

/-- The properties of the space between children. -/
def gapProperties : List String := ["row-gap", "column-gap"]

/-- The properties of the space around them. -/
def paddingProperties : List String :=
  ["padding-top", "padding-right", "padding-bottom", "padding-left"]

/-- The properties of the space in containers. -/
def spaceProperties : List String := gapProperties ++ paddingProperties

@[simp] theorem setBy_nil (property : String) : setBy [] property = [] := rfl

@[simp] theorem setBy_append (a b : List Request) (property : String) :
    setBy (a ++ b) property = setBy a property ++ setBy b property := by
  rw [setBy, List.flatMap_append, Css.settings_append]
  rfl

@[simp] theorem setBy_lengthUtility? (name declared : String) (length : Single)
    (property : String) :
    setBy (lengthUtility? name declared length) property =
      if sets declared property then shownLength length else [] := by
  unfold lengthUtility? shownLength
  by_cases zero : roundsToZero length = true
  · rw [if_pos zero, if_pos zero, ite_self]
    rfl
  · rw [if_neg zero, if_neg zero]
    by_cases here : sets declared property = true <;>
      simp [setBy, settings, lengthUtility, Request.declarations, here]

/-- No utility without an amount sets space. -/
theorem setBy_of_mem_fixedUtilities {request : Request} (listed : request ∈ fixedUtilities)
    {property : String} (space : property ∈ spaceProperties) : setBy [request] property = [] := by
  have each : ∀ request ∈ fixedUtilities, ∀ property ∈ spaceProperties,
      setBy [request] property = [] := by decide
  exact each request listed property space

theorem setBy_cons (request : Request) (rest : List Request) (property : String) :
    setBy (request :: rest) property = setBy [request] property ++ setBy rest property :=
  setBy_append [request] rest property

/-- A number of tracks sets no space. -/
theorem setBy_trackRequests {name declared : String} (listed : (name, declared) ∈ trackUtilities)
    (count : UInt32) {property : String} (space : property ∈ spaceProperties) :
    setBy (trackRequests name declared count) property = [] := by
  have apart : ∀ entry ∈ trackUtilities, ∀ property ∈ spaceProperties,
      sets entry.2 property = false := by decide
  unfold trackRequests
  split
  · rfl
  · simp [setBy, settings, fixed, Request.declarations, apart _ listed property space]

theorem roundsToZero_zero (negative : Bool) : roundsToZero (Binary.zero negative) = true := by
  have value : Binary.signed negative 0 = 0 := by cases negative <;> rfl
  have halves : Binary.HasHalves (Binary.zero negative) 0 :=
    ⟨rfl, value.trans (Int.zero_mul _).symm⟩
  rw [halves.roundsToZero (Nat.zero_le _)]
  rfl

/-- Equal lengths are shown alike. -/
theorem shownLength_eq_of_equals {a b : Single} (same : a.equals b = true) :
    shownLength a = shownLength b := by
  rcases Binary.eq_or_zeros_of_equals same with rfl | ⟨s, t, rfl, rfl⟩
  · rfl
  · rw [shownLength, if_pos (roundsToZero_zero s), shownLength, if_pos (roundsToZero_zero t)]

/-! ### Paddings -/

/-- The paddings of a frame, each with its property. -/
def paddings (frame : Frame) : List (String × Single) :=
  [("padding-top", frame.paddingTop), ("padding-right", frame.paddingRight),
    ("padding-bottom", frame.paddingBottom), ("padding-left", frame.paddingLeft)]

theorem mem_paddingProperties {frame : Frame} {property : String} {length : Single}
    (side : (property, length) ∈ paddings frame) : property ∈ paddingProperties :=
  List.mem_map_of_mem (f := Prod.fst) side

/-- Every padding is set to its own value, also if one utility sets all of them. -/
theorem setBy_paddingRequests {frame : Frame} {property : String} {length : Single}
    (side : (property, length) ∈ paddings frame) :
    setBy (paddingRequests frame) property = shownLength length := by
  unfold paddingRequests
  split
  · next alike =>
    -- The one value is that of the top, which the others equal.
    have equals : length.equals frame.paddingTop = true := by
      refine List.all_eq_true.1 alike length ?_
      exact List.mem_map_of_mem (f := Prod.snd) side
    have isPadding : sets "padding" property = true := by
      have each : ∀ p ∈ paddingProperties, sets "padding" p = true := by decide
      exact each property (mem_paddingProperties side)
    rw [setBy_lengthUtility?, if_pos isPadding, shownLength_eq_of_equals equals]
  · simp only [paddings, List.mem_cons, List.not_mem_nil, or_false, Prod.mk.injEq] at side
    rcases side with ⟨rfl, rfl⟩ | ⟨rfl, rfl⟩ | ⟨rfl, rfl⟩ | ⟨rfl, rfl⟩ <;>
      simp +decide only [setBy_append, setBy_lengthUtility?, if_true, if_false, List.append_nil,
        List.nil_append]

/-- Paddings set no gap. -/
theorem setBy_paddingRequests_gap (frame : Frame) {property : String}
    (gap : property ∈ gapProperties) : setBy (paddingRequests frame) property = [] := by
  have other : ∀ declared ∈ "padding" :: paddingProperties, ∀ property ∈ gapProperties,
      sets declared property = false := by decide
  unfold paddingRequests
  split
  · rw [setBy_lengthUtility?, other _ (by decide) property gap]
    rfl
  · simp only [setBy_append, setBy_lengthUtility?]
    rw [other "padding-top" (by decide) property gap,
      other "padding-right" (by decide) property gap,
      other "padding-bottom" (by decide) property gap,
      other "padding-left" (by decide) property gap]
    rfl

/-! ### Flows -/

/-- The gap between the children of a flow along an axis. -/
def gapAlong : Axis → String
  | .horizontal => "column-gap"
  | .vertical => "row-gap"

/-- The gap between the lines of a flow along an axis. -/
def gapAcross (axis : Axis) : String := gapAlong (crossAxis axis)

/-- The utility of the gap along an axis. -/
def gapRequest : Axis → Single → List Request
  | .horizontal => columnGap
  | .vertical => rowGap

theorem setBy_gapRequest (axis : Axis) (length : Single) {property : String}
    (space : property ∈ spaceProperties) :
    setBy (gapRequest axis length) property =
      if property = gapAlong axis then shownLength length else [] := by
  have itself : ∀ axis, ∀ property ∈ spaceProperties,
      sets (gapAlong axis) property = decide (property = gapAlong axis) := by
    intro axis
    cases axis <;> decide
  have shown : setBy (gapRequest axis length) property =
      if sets (gapAlong axis) property then shownLength length else [] := by
    cases axis <;> exact setBy_lengthUtility? ..
  simp only [shown, itself axis property space, decide_eq_true_eq]

/-- The lines of a flow set the gap across it, and only if the flow breaks. -/
theorem setBy_wrapRequests (axis : Axis) (frame : Frame) {property : String}
    (space : property ∈ spaceProperties) :
    setBy (wrapRequests (axis == .horizontal) frame) property =
      if frame.wrap = .wrap ∧ property = gapAcross axis then frame.lineSpacing.elim [] shownLength
      else [] := by
  have plain := fun {request : Request} (listed : request ∈ fixedUtilities) =>
    setBy_of_mem_fixedUtilities listed space
  have breaks : setBy [fixed "flex-wrap" [⟨"flex-wrap", "wrap"⟩]] property = [] := plain (by decide)
  have spreads :
      setBy [fixed "content-between" [⟨"align-content", "space-between"⟩]] property = [] :=
    plain (by decide)
  -- Lines of a row lie below each other, lines of a column side by side.
  have across : ∀ spacing, (if axis == .horizontal then rowGap spacing else columnGap spacing) =
      gapRequest (crossAxis axis) spacing := by
    intro spacing
    cases axis <;> rfl
  unfold wrapRequests
  cases frame.wrap with
  | noWrap => rfl
  | wrap =>
    cases frame.lineAlign <;> cases frame.lineSpacing <;>
      simp only [setBy_append, breaks, spreads, across, setBy_gapRequest _ _ space, gapAcross,
        List.nil_append, List.append_nil, true_and, Option.elim, ite_self]

/-- The spacing of a flow sets the gap along it, and also across it if the flow does not break. -/
theorem setBy_spacingRequests (axis : Axis) (frame : Frame) {property : String}
    (space : property ∈ spaceProperties) :
    setBy (spacingRequests (axis == .horizontal) frame) property =
      if frame.mainAlign ≠ .spaceBetween ∧ (property = gapAlong axis ∨
          frame.wrap = .noWrap ∧ property = gapAcross axis) then shownLength frame.itemSpacing
      else [] := by
  have along :
      (if axis == .horizontal then columnGap frame.itemSpacing else rowGap frame.itemSpacing) =
      gapRequest axis frame.itemSpacing := by
    cases axis <;> rfl
  have both : ∀ property ∈ spaceProperties, sets "gap" property =
      decide (property = gapAlong axis ∨ property = gapAcross axis) := by
    cases axis <;> decide
  unfold spacingRequests
  cases frame.mainAlign <;> cases frame.wrap <;>
    simp [along, setBy_gapRequest _ _ space, both property space, - beq_iff_eq]

/-- What a flow sets for its space is what its parts set. -/
theorem setBy_flowRequests (horizontal : Bool) (frame : Frame) {property : String}
    (space : property ∈ spaceProperties) :
    setBy (flowRequests horizontal frame) property =
      setBy (wrapRequests horizontal frame) property ++
        setBy (spacingRequests horizontal frame) property ++
        setBy (paddingRequests frame) property := by
  have plain := fun {request : Request} (listed : request ∈ fixedUtilities) =>
    setBy_of_mem_fixedUtilities listed space
  have displays : setBy [fixed "flex" [⟨"display", "flex"⟩]] property = [] := plain (by decide)
  have directs : setBy [if horizontal then fixed "flex-row" [⟨"flex-direction", "row"⟩]
      else fixed "flex-col" [⟨"flex-direction", "column"⟩]] property = [] := by
    cases horizontal <;> exact plain (by decide)
  have aligns : setBy [mainAlignRequest frame.mainAlign] property = [] := by
    cases frame.mainAlign <;> exact plain (by decide)
  have alignsToo : setBy [counterAlignRequest frame.counterAlign] property = [] := by
    rcases frame.counterAlign with _ | align
    · exact plain (by decide)
    · cases align <;> exact plain (by decide)
  rw [flowRequests, setBy_append, setBy_append, setBy_append, setBy_append, setBy_cons, displays,
    directs, setBy_cons, aligns, alignsToo, List.nil_append, List.nil_append, List.append_nil]

/-- A frame with a main axis is a flow along it. -/
theorem containerRequests_of_mainAxis {frame : Frame} {axis : Axis}
    (flow : frame.mainAxis = some axis) :
    containerRequests frame = flowRequests (axis == .horizontal) frame := by
  unfold Frame.mainAxis at flow
  unfold containerRequests
  split at flow <;> cases flow <;> next mode => rw [mode]; rfl

section Flow

variable {frame : Frame} {axis : Axis} (flow : frame.mainAxis = some axis)
include flow

theorem setBy_gapAlong : setBy (containerRequests frame) (gapAlong axis) =
    if frame.mainAlign = .spaceBetween then [] else shownLength frame.itemSpacing := by
  have space : gapAlong axis ∈ spaceProperties := by cases axis <;> decide
  have gap : gapAlong axis ∈ gapProperties := by cases axis <;> decide
  have other : gapAlong axis ≠ gapAcross axis := by cases axis <;> decide
  rw [containerRequests_of_mainAxis flow, setBy_flowRequests _ _ space,
    setBy_wrapRequests _ _ space, setBy_spacingRequests _ _ space,
    setBy_paddingRequests_gap frame gap]
  simp [other]

theorem setBy_gapAcross : setBy (containerRequests frame) (gapAcross axis) =
    if frame.wrap = .wrap then frame.lineSpacing.elim [] shownLength
    else setBy (containerRequests frame) (gapAlong axis) := by
  have space : gapAcross axis ∈ spaceProperties := by cases axis <;> decide
  have gap : gapAcross axis ∈ gapProperties := by cases axis <;> decide
  have other : gapAcross axis ≠ gapAlong axis := by cases axis <;> decide
  rw [setBy_gapAlong flow, containerRequests_of_mainAxis flow, setBy_flowRequests _ _ space,
    setBy_wrapRequests _ _ space, setBy_spacingRequests _ _ space,
    setBy_paddingRequests_gap frame gap]
  cases frame.wrap <;> simp [other]

theorem setBy_padding_of_flow {property : String} {length : Single}
    (side : (property, length) ∈ paddings frame) :
    setBy (containerRequests frame) property = shownLength length := by
  have padding := mem_paddingProperties side
  have space : property ∈ spaceProperties := List.mem_append_right _ padding
  have apart : ∀ axis, ∀ property ∈ paddingProperties, property ≠ gapAlong axis := by
    intro axis
    cases axis <;> decide
  have along := apart axis property padding
  have across : property ≠ gapAcross axis := apart _ property padding
  rw [containerRequests_of_mainAxis flow, setBy_flowRequests _ _ space,
    setBy_wrapRequests _ _ space, setBy_spacingRequests _ _ space, setBy_paddingRequests side]
  simp [along, across]

end Flow

/-! ### Grids -/

/-- Lengths with the same nearest whole number. -/
def roundAlike (a b : Single) : Bool := a.roundHalfAway.equals b.roundHalfAway

theorem roundsToZero_eq_of_roundAlike {a b : Single} (alike : roundAlike a b = true) :
    roundsToZero a = roundsToZero b :=
  Binary.equals_congr alike 0

/-- What a grid sets for its space is what its gaps and its paddings set. -/
theorem setBy_gridRequests (frame : Frame) {property : String}
    (space : property ∈ spaceProperties) :
    setBy (gridRequests frame) property =
      setBy (gridGapRequests frame) property ++ setBy (paddingRequests frame) property := by
  have displays : setBy [fixed "grid" [⟨"display", "grid"⟩]] property = [] :=
    setBy_of_mem_fixedUtilities (by decide) space
  rw [gridRequests, setBy_append, setBy_append, setBy_append, setBy_append, displays,
    setBy_trackRequests (by decide) _ space, setBy_trackRequests (by decide) _ space]
  rfl

theorem containerRequests_of_grid {frame : Frame} (grid : frame.mode = .grid) :
    containerRequests frame = gridRequests frame := by
  rw [containerRequests, grid]

theorem setBy_padding_of_grid {frame : Frame} (grid : frame.mode = .grid) {property : String}
    {length : Single} (side : (property, length) ∈ paddings frame) :
    setBy (containerRequests frame) property = shownLength length := by
  have padding := mem_paddingProperties side
  have apart : ∀ declared ∈ ["gap", "row-gap", "column-gap"], ∀ property ∈ paddingProperties,
      sets declared property = false := by decide
  have gaps : setBy (gridGapRequests frame) property = [] := by
    unfold gridGapRequests
    split
    · rw [setBy_lengthUtility?, apart "gap" (by decide) property padding]
      rfl
    · rw [setBy_append, rowGap, columnGap, setBy_lengthUtility?, setBy_lengthUtility?,
        apart "row-gap" (by decide) property padding,
        apart "column-gap" (by decide) property padding]
      rfl
  rw [containerRequests_of_grid grid, setBy_gridRequests _ (List.mem_append_right _ padding), gaps,
    setBy_paddingRequests side, List.nil_append]

/-- The rows of a grid have the gap between them that they should. -/
theorem setBy_rowGap_of_grid {frame : Frame} (grid : frame.mode = .grid) :
    setBy (containerRequests frame) "row-gap" = shownLength (gridRowGap frame) := by
  rw [containerRequests_of_grid grid, setBy_gridRequests _ (by decide),
    setBy_paddingRequests_gap frame (by decide), gridGapRequests, rowGap, columnGap]
  split <;> simp +decide

/-- The columns of a grid have the gap of the rows if the two round alike. -/
theorem setBy_columnGap_of_grid {frame : Frame} (grid : frame.mode = .grid) :
    setBy (containerRequests frame) "column-gap" =
      shownLength (if roundAlike (gridRowGap frame) (gridColumnGap frame) then gridRowGap frame
        else gridColumnGap frame) := by
  rw [containerRequests_of_grid grid, setBy_gridRequests _ (by decide),
    setBy_paddingRequests_gap frame (by decide), gridGapRequests, rowGap, columnGap, roundAlike]
  split <;> simp +decide

/-- Lengths that round alike are shown alike if both round to zero, or both are written alike. -/
theorem shownLength_eq_iff_of_roundAlike {a b : Single} (alike : roundAlike a b = true) :
    shownLength a = shownLength b ↔ roundsToZero a = true ∨ a.compact = b.compact := by
  rw [shownLength, shownLength, ← roundsToZero_eq_of_roundAlike alike]
  by_cases zero : roundsToZero a = true
  · simp [zero]
  · have unit : px a = px b ↔ a.compact = b.compact := String.append_left_inj _
    simp [zero, unit]

/-! ### What frames set -/

/-- **The space of a frame is what its design says, whatever was asked for before and after.** A
flow has its spacing along it, unless its children are spread, and the spacing of its lines across
it if it breaks; flows and grids have each padding. A length is left out if it rounds to zero, and
is exact otherwise. -/
theorem space_of_frame (earlier : List Call) (frame : Frame) (later : List Call) :
    (∀ axis, frame.mainAxis = some axis →
      settledFor? earlier frame later (gapAlong axis) =
          some (if frame.mainAlign = .spaceBetween then [] else shownLength frame.itemSpacing) ∧
        settledFor? earlier frame later (gapAcross axis) =
          if frame.wrap = .wrap then some (frame.lineSpacing.elim [] shownLength)
          else settledFor? earlier frame later (gapAlong axis)) ∧
      (frame.isAutoLayout = true → ∀ property length, (property, length) ∈ paddings frame →
        settledFor? earlier frame later property = some (shownLength length)) := by
  simp only [settledFor?_eq, ← apply_ite some, Option.some.injEq]
  refine ⟨fun axis flow => ⟨setBy_gapAlong flow, setBy_gapAcross flow⟩,
    fun auto property length side => ?_⟩
  cases mode : frame.mode with
  | free =>
    rw [Frame.isAutoLayout, mode] at auto
    cases auto
  | grid => exact setBy_padding_of_grid mode side
  | horizontal =>
    have flow : frame.mainAxis = some .horizontal := by rw [Frame.mainAxis, mode]
    exact setBy_padding_of_flow flow side
  | vertical =>
    have flow : frame.mainAxis = some .vertical := by rw [Frame.mainAxis, mode]
    exact setBy_padding_of_flow flow side

/-- A row that breaks, whose two gaps round alike, with a padding on two sides. -/
def brokenRow : Frame where
  mode := .horizontal
  itemSpacing := 7.6
  wrap := .wrap
  lineSpacing := some 8.4
  paddingTop := 1.5
  paddingLeft := 0.25

/-- A row like it in which the gaps change places. -/
def turnedRow : Frame := { brokenRow with itemSpacing := 8.4, lineSpacing := some 7.6 }

/-- After a row in which the gaps change places, each gap still is its own. -/
theorem space_of_brokenRow :
    settledFor? [.container turnedRow] brokenRow [.letters 12] "column-gap" = some ["7.6px"] ∧
      settledFor? [.container turnedRow] brokenRow [.letters 12] "row-gap" = some ["8.4px"] ∧
      settledFor? [.container turnedRow] brokenRow [.letters 12] "padding-top" = some ["1.5px"] ∧
      settledFor? [.container turnedRow] brokenRow [.letters 12] "padding-left" = some [] := by
  obtain ⟨flow, sides⟩ := space_of_frame [.container turnedRow] brokenRow [.letters 12]
  obtain ⟨along, across⟩ := flow .horizontal rfl
  refine ⟨along.trans (by decide +kernel), across.trans (by decide +kernel), ?_, ?_⟩
  · exact (sides rfl _ _ List.mem_cons_self).trans (by decide +kernel)
  · exact (sides rfl "padding-left" 0.25 (by decide +kernel)).trans (by decide +kernel)

/-- **The gap between the columns of a grid is that between its rows if the two round alike.** The
rows have their own gap at any time. The columns have theirs exactly if the two do not round alike,
are written alike, or both round to zero. -/
theorem gaps_of_grid (earlier : List Call) {frame : Frame} (grid : frame.mode = .grid)
    (later : List Call) :
    settledFor? earlier frame later "row-gap" = some (shownLength (gridRowGap frame)) ∧
      settledFor? earlier frame later "column-gap" =
        some (shownLength
          (if roundAlike (gridRowGap frame) (gridColumnGap frame) then gridRowGap frame
          else gridColumnGap frame)) ∧
      (settledFor? earlier frame later "column-gap" = some (shownLength (gridColumnGap frame)) ↔
        (roundAlike (gridRowGap frame) (gridColumnGap frame) = true →
          roundsToZero (gridRowGap frame) = true ∨
            (gridRowGap frame).compact = (gridColumnGap frame).compact)) := by
  simp only [settledFor?_eq, Option.some.injEq]
  refine ⟨setBy_rowGap_of_grid grid, setBy_columnGap_of_grid grid, ?_⟩
  rw [setBy_columnGap_of_grid grid]
  by_cases alike : roundAlike (gridRowGap frame) (gridColumnGap frame) = true
  · rw [if_pos alike, shownLength_eq_iff_of_roundAlike alike]
    exact ⟨fun shown _ => shown, fun shown => shown alike⟩
  · rw [if_neg alike]
    exact iff_of_true rfl fun yes => absurd yes alike

/-- A grid whose two gaps round alike. -/
def unevenGrid : Frame where
  mode := .grid
  gridRowGap := some 8.4
  gridColumnGap := some 7.6

/-- A grid whose columns are farther apart than its rows. -/
def wideGrid : Frame where
  mode := .grid
  itemSpacing := 7.6
  gridColumnGap := some 12

theorem gaps_of_wideGrid : wideGrid.mode = .grid ∧
    settledFor? [.container unevenGrid] wideGrid [] "row-gap" = some ["7.6px"] ∧
    settledFor? [.container unevenGrid] wideGrid [] "column-gap" = some ["12px"] := by
  have grid : wideGrid.mode = .grid := rfl
  obtain ⟨rows, columns, -⟩ := gaps_of_grid [.container unevenGrid] grid []
  exact ⟨grid, rows.trans (by decide +kernel), columns.trans (by decide +kernel)⟩

/-- The columns of a grid get the gap of its rows, which is not theirs. -/
theorem columns_of_unevenGrid :
    unevenGrid.mode = .grid ∧ roundsToZero (gridColumnGap unevenGrid) = false ∧
      px (gridColumnGap unevenGrid) = "7.6px" ∧
      settledFor? [] unevenGrid [] "column-gap" = some ["8.4px"] := by
  rw [settledFor?_eq]
  decide +kernel

end SceneMarkup.Layout
