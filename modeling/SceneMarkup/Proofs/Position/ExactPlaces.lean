import SceneMarkup.Proofs.Position.Placing

/-!
# Nodes keep their places

For whole numbers of moderate size nothing is lost between the numbers of a design and what a
browser reads: neither by arithmetic nor in the places that a number is written with.

* `isModerate`: a whole number of magnitude at most 65536;
* `anchoring_keeps_offset`: under all constraints a node is read to lie at its offset;
* `margins?`: the margins of a box, as they are read;
* `KeepsCenter`, `rotated_slot_keeps_center`: the box that keeps the size of a rotated picture is
  read to have the middle of its box in the document, or, in a flow, to take up as much room.
-/

namespace SceneMarkup.Position

open Binary (Denotes HasHalves denotes_whole halfText whole)
open Css (Declaration DeclaresOnly Measure declaresOnly_ite declaresOnly_nil
  declaresOnly_singleton last? measure? not_declares_of_declaresOnly number?_halfText valuesOf
  valuesOf_append valuesOf_cons valuesOf_eq_nil_iff valuesOf_nil)
open Scene (Axis Bounds Layer)

/-! ### Moderate numbers -/

/-- A whole number of magnitude at most 65536. -/
def isModerate (x : Single) : Bool :=
  x.isFinite && x.isWhole && decide ((whole x).natAbs ≤ 65536)

theorem denotes_of_isModerate {x : Single} (moderate : isModerate x = true) :
    Denotes x (whole x) ∧ (whole x).natAbs ≤ 65536 := by
  simp only [isModerate, Bool.and_eq_true_iff, decide_eq_true_iff] at moderate
  exact ⟨denotes_whole moderate.1.1 moderate.1.2, moderate.2⟩

/-- The difference of moderate numbers is exact. -/
theorem denotes_sub {x y : Single} (hx : isModerate x = true) (hy : isModerate y = true) :
    Denotes (x - y) (whole x - whole y) ∧ (whole x - whole y).natAbs ≤ 131072 := by
  obtain ⟨isX, smallX⟩ := denotes_of_isModerate hx
  obtain ⟨isY, smallY⟩ := denotes_of_isModerate hy
  have few : Nat.pow 2 Format.single.precision = 16777216 := rfl
  exact ⟨isX.sub (by decide) isY (by omega), by omega⟩

/-- The numbers that place a node in a container are moderate: its coordinates and its size, the
origin and the size of the container, and the corners of their boxes in the document. -/
def isOnGrid (layer : Layer) (container : Container) : Bool :=
  [layer.x, layer.y, layer.width, layer.height, container.originX, container.originY,
    container.width, container.height].all isModerate &&
  (layer.bounds.all fun box => isModerate box.x && isModerate box.y) &&
  container.bounds.all fun box => isModerate box.x && isModerate box.y

/-! ### Nodes -/

/-- The offset of a node is exact. -/
theorem exists_denotes_offset {layer : Layer} {container : Container}
    (onGrid : isOnGrid layer container = true) (options : Options) (axis : Axis) :
    ∃ d, Denotes (along (offset options layer container) axis) d ∧ d.natAbs ≤ 131072 := by
  simp only [isOnGrid, List.all_cons, List.all_nil, Bool.and_true, Bool.and_eq_true_iff] at onGrid
  obtain ⟨⟨⟨x, y, -, -, originX, originY, -, -⟩, own⟩, outer⟩ := onGrid
  have byOrigin :
      ∃ d, Denotes (along (layer.x - container.originX, layer.y - container.originY) axis) d ∧
      d.natAbs ≤ 131072 := by
    cases axis with
    | horizontal => exact ⟨_, denotes_sub x originX⟩
    | vertical => exact ⟨_, denotes_sub y originY⟩
  unfold offset
  split
  · split
    · next box around known known' =>
      rw [known, Option.all_some, Bool.and_eq_true_iff] at own
      rw [known', Option.all_some, Bool.and_eq_true_iff] at outer
      cases axis with
      | horizontal => exact ⟨_, denotes_sub own.1 outer.1⟩
      | vertical => exact ⟨_, denotes_sub own.2 outer.2⟩
    · exact byOrigin
  · exact byOrigin

/-- **Anchoring keeps the offset of a node.** Whatever its constraints are, what places a node out
of a flow is read to put its near edges exactly at its offset, and the edges of a stretched node
exactly as far apart as its size. A rotated node is moved in the same way, and then turned about its
corner. -/
theorem anchoring_keeps_offset {options : Options} {layer : Layer} {container : Container}
    (onGrid : isOnGrid layer container = true) (free : container.hasInFlow layer = false)
    (index count : Int) :
    ReadsAs layer container (fun axis => (along (offset options layer container) axis).value)
      (layer.isRotated options.rotationTolerance)
      (place options layer container (stackingOrder container.kind index count)) := by
  have grid := onGrid
  simp only [isOnGrid, List.all_cons, List.all_nil, Bool.and_true, Bool.and_eq_true_iff] at grid
  obtain ⟨⟨⟨-, -, width, height, -, -, width', height'⟩, -⟩, -⟩ := grid
  choose d isOffset near using exists_denotes_offset onGrid options
  have measures :
      AllMeasures layer container (offset options layer container) (fun axis => 2 * d axis)
      (fun axis => whole (layer.extent axis)) (fun axis => whole (container.extent axis)) := by
    intro axis
    have size : isModerate (layer.extent axis) = true := by
      cases axis
      · exact width
      · exact height
    have extent : isModerate (container.extent axis) = true := by
      cases axis
      · exact width'
      · exact height'
    have close : (2 * d axis).natAbs ≤ 393216 := by
      have := near axis
      omega
    exact ⟨(isOffset axis).halves, (denotes_of_isModerate size).1, (denotes_of_isModerate extent).1,
      close, (denotes_of_isModerate size).2, (denotes_of_isModerate extent).2⟩
  have places : (fun axis => ((2 * d axis : Int) : ℚ) / 2) =
      fun axis => (along (offset options layer container) axis).value := by
    funext axis
    rw [(isOffset axis).value]
    push_cast
    ring
  rw [← places]
  exact readsAs_placeAt measures free _ _

/-- A badge that is turned by thirty degrees. -/
def turnedBadge : Layer :=
  { id := "8:2", kind := .rectangle, x := 31, y := 9, width := 7, height := 24, rotation := 30
    constraints := { horizontal := .center, vertical := .stretch } }

/-- What the badge is placed in. -/
def turnedBadgeContainer : Container := ⟨.group, 120, 81, 4, 2, none⟩

theorem anchoring_keeps_offset_of_turnedBadge :
    isOnGrid turnedBadge turnedBadgeContainer = true ∧
      turnedBadgeContainer.hasInFlow turnedBadge = false ∧
      ReadsAs turnedBadge turnedBadgeContainer
        (fun axis => (along (offset {} turnedBadge turnedBadgeContainer) axis).value)
        (turnedBadge.isRotated (Options.rotationTolerance {}))
        (place {} turnedBadge turnedBadgeContainer (stackingOrder .group 0 1)) := by
  have onGrid : isOnGrid turnedBadge turnedBadgeContainer = true := by decide +kernel
  exact ⟨onGrid, rfl, anchoring_keeps_offset onGrid rfl 0 1⟩

/-! ### Rotated pictures -/

/-- The corner of a box along an axis. -/
def startOf (box : Bounds) : Axis → Single
  | .horizontal => box.x
  | .vertical => box.y

/-- The extent of a box along an axis. -/
def extentOf (box : Bounds) : Axis → Single
  | .horizontal => box.width
  | .vertical => box.height

/-- The margins of a box to both sides along an axis, given what shares are taken of: none, or one
for the sides above each other and one for those beside each other. -/
def margins? (axis : Axis) (whole : ℚ) (declarations : List Declaration) : Option ℚ :=
  match last? declarations "margin" with
  | none => some 0
  | some value =>
    match Text.pieces (· == ' ') value.toList with
    | [vertical, horizontal] =>
      (measure? (match axis with | .horizontal => horizontal | .vertical => vertical)).map
        (Measure.of whole)
    | _ => none

/-- How a browser reads what places the box that keeps the size of a rotated picture. -/
structure KeepsCenter (layer : Layer) (container : Container) (own outer : Bounds)
    (declarations : List Declaration) : Prop where
  /-- The box has the size of the picture before it is turned. -/
  size : ∀ axis, length? (container.extent axis).value declarations (Layout.dimension axis) =
    some (layer.extent axis).value
  /-- Out of a flow, its middle is that of the box in the document, counted from the box of the
  container. -/
  center : container.hasInFlow layer = false →
    valuesOf declarations "position" = ["absolute"] ∧
      ∀ axis, ∃ start,
        start? axis (container.extent axis).value (layer.extent axis).value declarations =
          some start ∧
        start + (layer.extent axis).value / 2 =
          (startOf own axis).value + (extentOf own axis).value / 2 - (startOf outer axis).value
  /-- In a flow, it takes up as much room with its margins as the box in the document. -/
  room : container.hasInFlow layer = true → ∀ axis, ∃ margin,
    margins? axis (container.extent .horizontal).value declarations = some margin ∧
      (layer.extent axis).value + 2 * margin = (extentOf own axis).value

/-- The numbers that place the box that keeps the size of a rotated picture are moderate: its size
and that of its container, its box in the document, and the corner of that of the container. -/
def isBoxedOnGrid (layer : Layer) (container : Container) (own outer : Bounds) : Bool :=
  [layer.width, layer.height, container.width, container.height, own.x, own.y, own.width,
    own.height, outer.x, outer.y].all isModerate

section Rotated

variable {layer : Layer} {container : Container} {own outer : Bounds}
  (onGrid : isBoxedOnGrid layer container own outer = true)
include onGrid

theorem isModerate_of_isBoxedOnGrid (axis : Axis) :
    isModerate (layer.extent axis) = true ∧ isModerate (container.extent axis) = true ∧
      isModerate (startOf own axis) = true ∧ isModerate (extentOf own axis) = true ∧
      isModerate (startOf outer axis) = true := by
  simp only [isBoxedOnGrid, List.all_cons, List.all_nil, Bool.and_true,
    Bool.and_eq_true_iff] at onGrid
  obtain ⟨width, height, width', height', x, y, ownWidth, ownHeight, outerX, outerY⟩ := onGrid
  cases axis with
  | horizontal => exact ⟨width, width', x, ownWidth, outerX⟩
  | vertical => exact ⟨height, height', y, ownHeight, outerY⟩

/-- The inset of a rotated picture is exact in halves. -/
theorem hasHalves_inset (known : layer.bounds = some own) (axis : Axis) :
    HasHalves (along (rotationInset layer) axis)
      (whole (extentOf own axis) - whole (layer.extent axis)) ∧
      (whole (extentOf own axis) - whole (layer.extent axis)).natAbs ≤ 131072 := by
  obtain ⟨size, -, -, extent, -⟩ := isModerate_of_isBoxedOnGrid onGrid axis
  obtain ⟨difference, small⟩ := denotes_sub extent size
  have few : Nat.pow 2 24 = 16777216 := rfl
  have halves := difference.half (by omega)
  rw [rotationInset, known]
  cases axis with
  | horizontal => exact ⟨halves, small⟩
  | vertical => exact ⟨halves, small⟩

/-- A rotated node lies where its box in the document does. -/
theorem denotes_offset_of_bounds {options : Options}
    (rotated : layer.isRotated options.rotationTolerance = true) (known : layer.bounds = some own)
    (around : container.bounds = some outer) (axis : Axis) :
    Denotes (along (offset options layer container) axis)
      (whole (startOf own axis) - whole (startOf outer axis)) ∧
      (whole (startOf own axis) - whole (startOf outer axis)).natAbs ≤ 131072 := by
  obtain ⟨-, -, place, -, place'⟩ := isModerate_of_isBoxedOnGrid onGrid axis
  rw [offset, rotated, Bool.true_or, if_pos rfl, known, around]
  cases axis with
  | horizontal => exact denotes_sub place place'
  | vertical => exact denotes_sub place place'

/-- The box of a rotated picture that keeps its size lies at whole numbers of halves. -/
theorem measures_rotatedSlot {options : Options}
    (rotated : layer.isRotated options.rotationTolerance = true) (known : layer.bounds = some own)
    (around : container.bounds = some outer) :
    AllMeasures layer container
      ((offset options layer container).1 + (rotationInset layer).1,
        (offset options layer container).2 + (rotationInset layer).2)
      (fun axis => 2 * (whole (startOf own axis) - whole (startOf outer axis)) +
        (whole (extentOf own axis) - whole (layer.extent axis)))
      (fun axis => whole (layer.extent axis)) (fun axis => whole (container.extent axis)) := by
  intro axis
  obtain ⟨size, extent, -, -, -⟩ := isModerate_of_isBoxedOnGrid onGrid axis
  obtain ⟨inset, smallInset⟩ := hasHalves_inset onGrid known axis
  obtain ⟨corner, smallCorner⟩ := denotes_offset_of_bounds onGrid rotated known around axis
  have few : Nat.pow 2 24 = 16777216 := rfl
  have sum := corner.halves.add inset (by omega)
  refine ⟨?_, (denotes_of_isModerate size).1, (denotes_of_isModerate extent).1, ?_,
    (denotes_of_isModerate size).2, (denotes_of_isModerate extent).2⟩
  · cases axis with
    | horizontal => exact sum
    | vertical => exact sum
  · show (2 * (whole (startOf own axis) - whole (startOf outer axis)) +
      (whole (extentOf own axis) - whole (layer.extent axis))).natAbs ≤ 393216
    omega

omit onGrid

theorem valuesOf_rotatedOuter_eq_nil (layer : Layer) {property : String}
    (other : property ∉ ["width", "height"]) : valuesOf (rotatedOuter layer) property = [] := by
  simp only [List.mem_cons, List.not_mem_nil, or_false, not_or] at other
  simp [rotatedOuter, valuesOf_cons, Ne.symm other.1, Ne.symm other.2]

/-- Its size does not move a box. -/
theorem start?_append_rotatedOuter (axis : Axis) (extent size : ℚ) (declarations : List Declaration)
    (layer : Layer) :
    start? axis extent size (declarations ++ rotatedOuter layer) =
      start? axis extent size declarations := by
  have edges : ∀ edge ∈ edgeProperties axis,
      valuesOf (declarations ++ rotatedOuter layer) edge = valuesOf declarations edge := by
    intro edge isEdge
    have other : edge ∉ ["width", "height"] := by
      revert edge
      cases axis <;> decide
    rw [valuesOf_append, valuesOf_rotatedOuter_eq_nil layer other, List.append_nil]
  have transform : valuesOf (declarations ++ rotatedOuter layer) "transform" =
      valuesOf declarations "transform" := by
    rw [valuesOf_append, valuesOf_rotatedOuter_eq_nil layer (by decide), List.append_nil]
  rw [start?, edge?_congr axis edges, functions?, last?, transform]
  rfl

/-- What places the box gives it no size. -/
theorem valuesOf_dimension_rotatedSlot (options : Options) (layer : Layer) (container : Container)
    (order : Int) (axis : Axis) :
    valuesOf (rotatedSlot options layer container order) (Layout.dimension axis) = [] := by
  have margin : DeclaresOnly ["margin"]
      (if container.hasInFlow layer then insetMargin (rotationInset layer) else []) :=
    declaresOnly_ite (declaresOnly_ite declaresOnly_nil (declaresOnly_singleton.2 (by decide)))
      declaresOnly_nil
  have noMargin := valuesOf_eq_nil_iff.2
    (not_declares_of_declaresOnly margin
      (show Layout.dimension axis ∉ ["margin"] by cases axis <;> decide))
  have noPlace := valuesOf_eq_nil_iff.2 (not_declares_of_declaresOnly
    (places_placeAt layer container ((offset options layer container).1 + (rotationInset layer).1,
      (offset options layer container).2 + (rotationInset layer).2) order false)
    (show Layout.dimension axis ∉ placingProperties by cases axis <;> decide))
  rw [rotatedSlot, valuesOf_append, noMargin, noPlace]
  rfl

theorem valuesOf_dimension_rotatedOuter (layer : Layer) (axis : Axis) :
    valuesOf (rotatedOuter layer) (Layout.dimension axis) = [Css.px (layer.extent axis)] := by
  cases axis <;> simp [rotatedOuter, valuesOf_cons, Layout.dimension, Layer.extent]

/-- A number of halves that is written as zero is zero. -/
theorem eq_zero_of_compact {x : Single} {n : Int} (halves : HasHalves x n)
    (few : 25 * n.natAbs ≤ Nat.pow 2 24) (zero : x.compact = "0") : n = 0 := by
  have read := number?_halfText n
  rw [← halves.compact few, zero, show "0" = halfText 0 by decide, number?_halfText,
    Option.some.injEq] at read
  have value : (n : ℚ) = 0 := by linarith
  exact_mod_cast value

theorem pieces_px (length : Single) :
    Text.pieces (· == ' ') (Css.px length).toList = [(Css.px length).toList] := by
  have unspaced : Text.IsOf isNumberChar (Css.px length) := (isOf_compact length).append (by decide)
  refine Text.pieces_of_forall_not fun c mem => beq_false_of_ne ?_
  rintro rfl
  exact absurd (unspaced _ mem) (by decide)

/-- The margin of an inset is read as the inset. -/
theorem margins?_insetMargin {inset : Single × Single} {n : Axis → Int}
    (halves : ∀ axis, HasHalves (along inset axis) (n axis) ∧ (n axis).natAbs ≤ 131072) {whole : ℚ}
    {declarations : List Declaration}
    (same : valuesOf declarations "margin" = valuesOf (insetMargin inset) "margin") (axis : Axis) :
    margins? axis whole declarations = some (n axis / 2 : ℚ) := by
  have few : Nat.pow 2 24 = 16777216 := rfl
  have moderate : ∀ axis, 25 * (n axis).natAbs ≤ Nat.pow 2 24 := fun axis => by
    have := (halves axis).2
    omega
  rw [margins?, last?, same, insetMargin]
  split_ifs with nowhere
  · have zero : n axis = 0 := by
      refine eq_zero_of_compact (halves axis).1 (moderate axis) ?_
      cases axis
      · exact nowhere.1
      · exact nowhere.2
    rw [valuesOf_nil, zero]
    simp
  · have value : (Css.px inset.2 ++ " " ++ Css.px inset.1).toList =
        (Css.px inset.2).toList ++ ' ' :: (Css.px inset.1).toList := by
      simp
    rw [valuesOf_cons, if_pos rfl, valuesOf_nil, List.getLast?_singleton]
    dsimp only
    rw [value, Text.pieces_append_cons (by decide), pieces_px, pieces_px]
    cases axis with
    | horizontal =>
      exact congrArg (Option.map (Measure.of whole))
        (measure?_px (halves .horizontal).1 (moderate _))
    | vertical =>
      exact congrArg (Option.map (Measure.of whole)) (measure?_px (halves .vertical).1 (moderate _))

theorem valuesOf_margin_rotatedSlot {options : Options} (flow : container.hasInFlow layer = true)
    (order : Int) :
    valuesOf (rotatedSlot options layer container order ++ rotatedOuter layer) "margin" =
      valuesOf (insetMargin (rotationInset layer)) "margin" := by
  have place := valuesOf_eq_nil_iff.2 (not_declares_of_declaresOnly
    (places_placeAt layer container ((offset options layer container).1 + (rotationInset layer).1,
      (offset options layer container).2 + (rotationInset layer).2) order false)
    (show "margin" ∉ placingProperties by decide))
  rw [valuesOf_append, valuesOf_rotatedOuter_eq_nil layer (by decide), rotatedSlot, valuesOf_append,
    place, if_pos flow, List.append_nil, List.append_nil]

/-- **A rotated picture keeps its center.** Whatever its constraints are, the box that keeps its
size is read to have exactly the middle of its box in the document; in a flow, it takes up exactly
as much room. -/
theorem rotated_slot_keeps_center {options : Options} {layer : Layer} {container : Container}
    {own outer : Bounds} (rotated : layer.isRotated options.rotationTolerance = true)
    (known : layer.bounds = some own) (around : container.bounds = some outer)
    (onGrid : isBoxedOnGrid layer container own outer = true) (index count : Int) :
    KeepsCenter layer container own outer
      (rotatedSlot options layer container (stackingOrder container.kind index count) ++
        rotatedOuter layer) where
  size axis := by
    obtain ⟨size, small⟩ := denotes_of_isModerate (isModerate_of_isBoxedOnGrid onGrid axis).1
    have few : Nat.pow 2 24 = 16777216 := rfl
    have declared :
        valuesOf (rotatedSlot options layer container (stackingOrder container.kind index count) ++
        rotatedOuter layer) (Layout.dimension axis) = [Css.px (layer.extent axis)] := by
      rw [valuesOf_append, valuesOf_dimension_rotatedSlot, valuesOf_dimension_rotatedOuter,
        List.nil_append]
    rw [length?_eq declared (measure?_px size.halves (by omega)), size.value]
    simp [Measure.of]
  center free := by
    have reads := readsAs_placeAt (measures_rotatedSlot onGrid rotated known around) free
      (stackingOrder container.kind index count) false
    have slot : rotatedSlot options layer container (stackingOrder container.kind index count) =
        placeAt layer container ((offset options layer container).1 + (rotationInset layer).1,
          (offset options layer container).2 + (rotationInset layer).2)
          (stackingOrder container.kind index count) false := by
      rw [rotatedSlot, free]
      rfl
    rw [slot]
    refine ⟨?_,
      fun axis => ⟨_, (start?_append_rotatedOuter axis _ _ _ layer).trans (reads.start axis), ?_⟩⟩
    · rw [valuesOf_append, valuesOf_rotatedOuter_eq_nil layer (by decide), reads.absolute]
      rfl
    · obtain ⟨size, -, place, extent, place'⟩ := isModerate_of_isBoxedOnGrid onGrid axis
      rw [(denotes_of_isModerate size).1.value, (denotes_of_isModerate place).1.value,
        (denotes_of_isModerate extent).1.value, (denotes_of_isModerate place').1.value]
      push_cast
      ring
  room flow axis := by
    obtain ⟨size, -, -, extent, -⟩ := isModerate_of_isBoxedOnGrid onGrid axis
    refine ⟨_, margins?_insetMargin (hasHalves_inset onGrid known)
      (valuesOf_margin_rotatedSlot flow _) axis, ?_⟩
    rw [(denotes_of_isModerate size).1.value, (denotes_of_isModerate extent).1.value]
    push_cast
    ring

end Rotated

/-- A leaf that is turned by thirty degrees. -/
def turnedLeaf : Layer :=
  { id := "8:4", kind := .vector, width := 40, height := 21, rotation := 30
    bounds := some ⟨10, 20, 45, 38⟩, constraints := { horizontal := .center, vertical := .max } }

/-- What the leaf is placed in. -/
def turnedLeafContainer : Container := ⟨.group, 101, 90, 0, 0, some ⟨3, 4, 101, 90⟩⟩

theorem turnedLeaf_keeps_center :
    turnedLeaf.isRotated (Options.rotationTolerance {}) = true ∧
      isBoxedOnGrid turnedLeaf turnedLeafContainer ⟨10, 20, 45, 38⟩ ⟨3, 4, 101, 90⟩ = true ∧
      KeepsCenter turnedLeaf turnedLeafContainer ⟨10, 20, 45, 38⟩ ⟨3, 4, 101, 90⟩
        (rotatedSlot {} turnedLeaf turnedLeafContainer (stackingOrder .group 0 1) ++
          rotatedOuter turnedLeaf) := by
  have rotated : turnedLeaf.isRotated (Options.rotationTolerance {}) = true := by decide +kernel
  have onGrid :
      isBoxedOnGrid turnedLeaf turnedLeafContainer ⟨10, 20, 45, 38⟩ ⟨3, 4, 101, 90⟩ = true := by
    decide +kernel
  exact ⟨rotated, onGrid, rotated_slot_keeps_center rotated rfl rfl onGrid 0 1⟩

end SceneMarkup.Position
