import Mathlib.Tactic.Linarith
import SceneMarkup.Proofs.Css.Measures
import SceneMarkup.Proofs.Css.Values
import SceneMarkup.Proofs.Numeric.ExactValues
import SceneMarkup.Proofs.Position.Edges

/-!
# Where a browser places a node

What places a node is read here as a browser does: an edge counts from the near side of the
container or from the far one, shares are taken of the container, and translations move the node
from there, by shares of its own size.

* `edge?`, `shift?`, `functions?`, `start?`: the near edge of a node along an axis, as it is read;
* `span?`: the distance between the two edges of a node that has both;
* `Anchor.Leads`, `leads_anchor`: each constraint leads to the offset, in numbers of halves;
* `ReadsAs`, `readsAs_placeAt`: so does what places a node, whatever its constraints are.
-/

namespace SceneMarkup

open Binary (Denotes HasHalves HasValue halfText)
open Css (Declaration FunctionCall Measure calls? calls?_intercalate isUnbracketed
  isUnbracketed_of last? measure? measure?_halfText measure?_share not_declares_of_declaresOnly
  valuesOf valuesOf_append valuesOf_cons valuesOf_eq_nil_iff)
open Scene (Axis Constraint Layer)

namespace Position

/-- One of two numbers, by the axis. -/
def along (pair : Single × Single) : Axis → Single
  | .horizontal => pair.1
  | .vertical => pair.2

/-- The extent of a container along an axis. -/
def Container.extent (container : Container) : Axis → Single
  | .horizontal => container.width
  | .vertical => container.height

/-! ### Reading -/

/-- A property as a length, given what shares are taken of. -/
def length? (whole : ℚ) (declarations : List Declaration) (property : String) : Option ℚ :=
  (last? declarations property).bind fun value => (measure? value.toList).map (Measure.of whole)

/-- The near edge of a node along an axis of a container, before it is moved. The near edge wins
over the far one. -/
def edge? (axis : Axis) (extent size : ℚ) (declarations : List Declaration) : Option ℚ :=
  match last? declarations (edges axis).1 with
  | some _ => length? extent declarations (edges axis).1
  | none => (length? extent declarations (edges axis).2.1).map fun far => extent - far - size

/-- The distance between the two edges of a node that has both. -/
def span? (axis : Axis) (extent : ℚ) (declarations : List Declaration) : Option ℚ :=
  (length? extent declarations (edges axis).1).bind fun near =>
    (length? extent declarations (edges axis).2.1).map fun far => extent - far - near

/-- The functions of a transformation. -/
def functions? (declarations : List Declaration) : Option (List FunctionCall) :=
  match last? declarations "transform" with
  | some value => calls? value
  | none => some []

/-- How far functions move the corner of a node along an axis: translations add up, and another
function, which turns the node about its corner, may only come last. -/
def shift? (axis : Axis) (size : ℚ) : List FunctionCall → Option ℚ
  | [] => some 0
  | call :: rest =>
    if call.name = (edges axis).2.2 then
      (measure? call.argument.toList).bind fun measure =>
        (shift? axis size rest).map fun more => measure.of size + more
    else if call.name = (edges (Layout.crossAxis axis)).2.2 then shift? axis size rest
    else if rest.isEmpty then some 0
    else none

/-- The near edge of a node along an axis of a container, after it is moved. -/
def start? (axis : Axis) (extent size : ℚ) (declarations : List Declaration) : Option ℚ :=
  (edge? axis extent size declarations).bind fun edge =>
    (functions? declarations).bind fun calls => (shift? axis size calls).map fun moved =>
      edge + moved

section Congr

variable {declarations others : List Declaration} {extent size : ℚ}

/-- What is read along an axis depends on the edges of the axis alone. -/
theorem edge?_congr (axis : Axis)
    (same : ∀ edge ∈ edgeProperties axis, valuesOf declarations edge = valuesOf others edge) :
    edge? axis extent size declarations = edge? axis extent size others := by
  simp only [edge?, length?, last?, same _ List.mem_cons_self,
    same _ (List.mem_cons_of_mem _ List.mem_cons_self)]

theorem span?_congr (axis : Axis)
    (same : ∀ edge ∈ edgeProperties axis, valuesOf declarations edge = valuesOf others edge) :
    span? axis extent declarations = span? axis extent others := by
  simp only [span?, length?, last?, same _ List.mem_cons_self,
    same _ (List.mem_cons_of_mem _ List.mem_cons_self)]

end Congr

/-! ### Translations -/

/-- Translations along an axis. -/
def AllAlong (axis : Axis) (calls : List FunctionCall) : Prop :=
  ∀ call ∈ calls, call.name = (edges axis).2.2

theorem function_ne (axis : Axis) : (edges (Layout.crossAxis axis)).2.2 ≠ (edges axis).2.2 := by
  cases axis <;> decide

/-- Translations along the other axis do not move a node along this one. -/
theorem shift?_of_across (axis : Axis) (size : ℚ) {calls : List FunctionCall}
    (across : AllAlong (Layout.crossAxis axis) calls) (rest : List FunctionCall) :
    shift? axis size (calls ++ rest) = shift? axis size rest := by
  induction calls with
  | nil => rfl
  | cons call others ih =>
    obtain ⟨here, there⟩ := List.forall_mem_cons.1 across
    rw [List.cons_append, shift?, here, if_neg (function_ne axis), if_pos rfl, ih there]

/-- Translations along an axis come on top of what follows. -/
theorem shift?_append {axis : Axis} {size moved more : ℚ} {calls rest : List FunctionCall}
    (alongAxis : AllAlong axis calls) (first : shift? axis size calls = some moved)
    (second : shift? axis size rest = some more) :
    shift? axis size (calls ++ rest) = some (moved + more) := by
  induction calls generalizing moved with
  | nil =>
    obtain rfl : 0 = moved := Option.some.inj first
    rw [List.nil_append, second, zero_add]
  | cons call others ih =>
    obtain ⟨here, there⟩ := List.forall_mem_cons.1 alongAxis
    rw [shift?, if_pos here, Option.bind_eq_some_iff] at first
    obtain ⟨measure, read, added⟩ := first
    obtain ⟨later, moves, rfl⟩ := Option.map_eq_some_iff.1 added
    rw [List.cons_append, shift?, if_pos here, read, Option.bind_some, ih there moves,
      Option.map_some, add_assoc]

/-- Some calls as a value, if there are any. -/
def valueOf? (calls : List FunctionCall) : Option String :=
  if calls = [] then none else some (" ".intercalate (calls.map FunctionCall.text))

/-- Calls in groups are written as they are without. -/
theorem intercalate_filterMap_valueOf? (groups : List (List FunctionCall)) :
    (groups.filterMap valueOf? = [] ↔ groups.flatten = []) ∧
      " ".intercalate (groups.filterMap valueOf?) =
        " ".intercalate (groups.flatten.map FunctionCall.text) := by
  induction groups with
  | nil => exact ⟨by simp, rfl⟩
  | cons calls rest ih =>
    obtain ⟨empty_iff, same⟩ := ih
    by_cases empty : calls = []
    · rw [List.filterMap_cons_none (by rw [valueOf?, if_pos empty]), List.flatten_cons, empty,
        List.nil_append]
      exact ⟨empty_iff, same⟩
    · rw [List.filterMap_cons_some (by rw [valueOf?, if_neg empty]), List.flatten_cons,
        List.map_append]
      refine ⟨by simp [empty], ?_⟩
      by_cases last : rest.flatten = []
      · rw [empty_iff.2 last, last, List.map_nil, List.append_nil, String.intercalate_singleton]
      · rw [String.intercalate_cons_of_ne_nil (mt empty_iff.1 last), same,
          String.intercalate_append_of_ne_nil (by simpa using empty) (by simpa using last)]

/-! ### Constraints -/

/-- What an anchor comes to along its axis: an edge, and translations that lead from there to a
place. -/
structure Anchor.Leads (anchor : Anchor) (axis : Axis) (extent size place : ℚ)
    (moves : List FunctionCall) :
    Prop where
  shift : anchor.shift = valueOf? moves
  plain : ∀ move ∈ moves, move.IsPlain
  translates : AllAlong axis moves
  place : ∃ edge moved, edge? axis extent size anchor.declarations = some edge ∧
    shift? axis size moves = some moved ∧ edge + moved = place

theorem length?_eq {whole : ℚ} {declarations : List Declaration} {property value : String}
    {measure : Measure} (declared : valuesOf declarations property = [value])
    (read : measure? value.toList = some measure) :
    length? whole declarations property = some (measure.of whole) := by
  rw [length?, last?, declared, List.getLast?_singleton, Option.bind_some, read, Option.map_some]

theorem edge?_of_near {axis : Axis} {extent size : ℚ} {declarations : List Declaration}
    {value : String} {measure : Measure} (near : valuesOf declarations (edges axis).1 = [value])
    (read : measure? value.toList = some measure) :
    edge? axis extent size declarations = some (measure.of extent) := by
  rw [edge?, last?, near, List.getLast?_singleton]
  exact length?_eq near read

theorem edge?_of_far {axis : Axis} {extent size : ℚ} {declarations : List Declaration}
    {value : String} {measure : Measure} (near : valuesOf declarations (edges axis).1 = [])
    (far : valuesOf declarations (edges axis).2.1 = [value])
    (read : measure? value.toList = some measure) :
    edge? axis extent size declarations = some (extent - measure.of extent - size) := by
  rw [edge?, last?, near, List.getLast?_nil]
  dsimp only
  rw [length?_eq far read, Option.map_some]

theorem isPlain_name (axis : Axis) :
    Text.IsOf isUnbracketed (edges axis).2.2 ∧ (edges axis).2.2.toList.head? ≠ some ' ' := by
  cases axis <;> decide

theorem isPlain_translation (axis : Axis) {argument : String}
    (inside : Text.IsOf isUnbracketed argument) :
    FunctionCall.IsPlain ⟨(edges axis).2.2, argument⟩ :=
  ⟨(isPlain_name axis).1, (isPlain_name axis).2, inside⟩

/-! ### Nodes in the middle -/

/-- The translations of a node that keeps to the middle of its container, so many halves beside
it. -/
def centering (axis : Axis) (halves : Int) : List FunctionCall :=
  ⟨(edges axis).2.2, "-50%"⟩ ::
    if halves = 0 then [] else [⟨(edges axis).2.2, halfText halves ++ "px"⟩]

theorem measure?_half : measure? "50%".toList = some (.percent 50) := by
  have read := measure?_share 100
  norm_num at read
  exact read

theorem measure?_negHalf : measure? "-50%".toList = some (.percent (-50)) := by
  have read := measure?_share (-100)
  norm_num at read
  exact read

theorem isPlain_centering (axis : Axis) (halves : Int) :
    ∀ move ∈ centering axis halves, move.IsPlain := by
  refine List.forall_mem_cons.2 ⟨isPlain_translation axis (by decide), fun move mem => ?_⟩
  split at mem
  · cases mem
  · rw [List.mem_singleton.1 mem]
    exact isPlain_translation axis
      (((Css.isNumeric_halfText halves).mono (isUnbracketed_of rfl rfl)).append (by decide))

theorem allAlong_centering (axis : Axis) (halves : Int) :
    AllAlong axis (centering axis halves) := by
  refine List.forall_mem_cons.2 ⟨rfl, fun move mem => ?_⟩
  split at mem
  · cases mem
  · rw [List.mem_singleton.1 mem]

/-- Half of the size back, and then so many halves on. -/
theorem shift?_centering (axis : Axis) (size : ℚ) (halves : Int) :
    shift? axis size (centering axis halves) = some (halves / 2 - size / 2) := by
  by_cases middle : halves = 0
  · simp only [centering, middle, if_true, shift?, measure?_negHalf, Option.bind_some,
      Option.map_some, Measure.of]
    norm_num
    ring
  · simp only [centering, middle, if_false, if_true, shift?, measure?_negHalf, measure?_halfText,
      Option.bind_some, Option.map_some, Measure.of]
    congr 1
    ring

theorem valueOf?_centering (axis : Axis) (halves : Int) :
    valueOf? (centering axis halves) = some ((edges axis).2.2 ++ "(-50%)" ++
      if halves = 0 then "" else " " ++ (edges axis).2.2 ++ "(" ++
      (halfText halves ++ "px") ++ ")") := by
  have back : (FunctionCall.mk (edges axis).2.2 "-50%").text = (edges axis).2.2 ++ "(-50%)" := by
    rw [FunctionCall.text, String.append_assoc, String.append_assoc]
    rfl
  by_cases middle : halves = 0
  · simp [valueOf?, centering, middle, back]
  · rw [valueOf?, centering, if_neg middle, if_neg (by simp), if_neg middle, List.map_cons,
      List.map_singleton, back, String.intercalate_cons_cons, String.intercalate_singleton,
      FunctionCall.text]
    simp only [String.append_assoc]

/-! ### Constraints -/

/-- The numbers of a node along an axis: its offset in halves, its size, and the extent of its
container. -/
structure Measures (offset size extent : Single) (a w e : Int) : Prop where
  offset : HasHalves offset a
  size : Denotes size w
  extent : Denotes extent e
  near : a.natAbs ≤ 393216
  small : w.natAbs ≤ 65536
  around : e.natAbs ≤ 65536

/-- A moderate number of halves reads back from pixels. -/
theorem measure?_px {length : Single} {n : Int} (halves : HasHalves length n)
    (few : 25 * n.natAbs ≤ Nat.pow 2 24) :
    measure? (Css.px length).toList = some (.pixels (n / 2)) := by
  rw [Css.px, halves.compact few]
  exact measure?_halfText n

namespace Measures

variable {offset size extent : Single} {a w e : Int} (measures : Measures offset size extent a w e)
include measures

theorem readNear : measure? (Css.px offset).toList = some (.pixels (a / 2)) := by
  have few : Nat.pow 2 24 = 16777216 := rfl
  have near := measures.near
  exact measure?_px measures.offset (by omega)

/-- The distance to the far edge of the container. -/
theorem readFar :
    measure? (Css.px (extent - (offset + size))).toList = some (.pixels (e - w - a / 2)) := by
  have few : Nat.pow 2 24 = 16777216 := rfl
  obtain ⟨place, isSize, isExtent, near, small, around⟩ := measures
  have rest : HasHalves (extent - (offset + size)) (2 * e - (a + 2 * w)) :=
    isExtent.halves.sub (place.add isSize.halves (by omega)) (by omega)
  rw [measure?_px rest (by omega)]
  congr 2
  push_cast
  ring

/-- The distance from the middle of the container to that of the node. -/
theorem residual : HasHalves (offset + size / 2 - extent / 2) (a + w - e) := by
  have few : Nat.pow 2 24 = 16777216 := rfl
  obtain ⟨place, isSize, isExtent, near, small, around⟩ := measures
  exact (place.add (isSize.half (by omega)) (by omega)).sub (isExtent.half (by omega)) (by omega)

/-- Each constraint leads to the offset. -/
theorem leads (axis : Axis) (constraint : Constraint) :
    ∃ moves, (anchor axis constraint offset size extent).Leads axis e w (a / 2) moves := by
  have few : Nat.pow 2 24 = 16777216 := rfl
  have differ : (edges axis).1 ≠ (edges axis).2.1 := by cases axis <;> decide
  cases constraint with
  | min =>
    refine ⟨[], rfl, by simp, by simp [AllAlong], a / 2, 0, ?_, rfl, add_zero _⟩
    exact edge?_of_near (by simp [anchor, valuesOf_cons]) measures.readNear
  | max =>
    refine ⟨[], rfl, by simp, by simp [AllAlong], _, 0,
      edge?_of_far (by simp [anchor, valuesOf_cons, differ.symm]) (by simp [anchor, valuesOf_cons])
        measures.readFar, rfl, ?_⟩
    simp only [Measure.of]
    ring
  | stretch =>
    refine ⟨[], rfl, by simp, by simp [AllAlong], a / 2, 0, ?_, rfl, add_zero _⟩
    exact edge?_of_near (by simp [anchor, valuesOf_cons, differ.symm]) measures.readNear
  | center =>
    have near := measures.near
    have small := measures.small
    have around := measures.around
    refine ⟨centering axis (a + w - e), ?_, isPlain_centering axis _, allAlong_centering axis _, _,
      _, edge?_of_near (by simp [anchor, valuesOf_cons]) measure?_half, shift?_centering axis w _,
      ?_⟩
    · rw [valueOf?_centering]
      simp [anchor, measures.residual.roundsToZero (by omega), Css.px,
        measures.residual.compact (by omega)]
    · simp only [Measure.of]
      push_cast
      ring

/-- Between the edges of a stretched node there is room for exactly its size. -/
theorem span (axis : Axis) :
    span? axis e (anchor axis .stretch offset size extent).declarations = some (w : ℚ) := by
  have differ : (edges axis).1 ≠ (edges axis).2.1 := by cases axis <;> decide
  rw [span?, length?_eq (by simp [anchor, valuesOf_cons, differ.symm]) measures.readNear,
    length?_eq (by simp [anchor, valuesOf_cons, differ]) measures.readFar]
  simp only [Option.bind_some, Option.map_some, Measure.of]
  congr 1
  ring

end Measures

/-! ### All that places a node -/

variable {layer : Layer} {container : Container}

/-- What a constraint makes of a node along an axis. -/
def axisAnchor (layer : Layer) (container : Container) (offset : Single × Single)
    (axis : Axis) : Anchor :=
  anchor axis (layer.constraints.on axis) (along offset axis) (layer.extent axis)
    (container.extent axis)

theorem placeAt_eq (free : container.hasInFlow layer = false) (offset : Single × Single)
    (order : Int) (rotated : Bool) :
    placeAt layer container offset order rotated =
      ⟨"position", "absolute"⟩ :: ((axisAnchor layer container offset .horizontal).declarations ++
        ((axisAnchor layer container offset .vertical).declarations ++
          shifts layer [axisAnchor layer container offset .horizontal,
            axisAnchor layer container offset .vertical] order rotated)) :=
  placeAt_of_not_hasInFlow free offset order rotated

theorem valuesOf_axisAnchor_eq_nil {offset : Single × Single} {axis : Axis} {property : String}
    (other : property ∉ edgeProperties axis) :
    valuesOf (axisAnchor layer container offset axis).declarations property = [] :=
  valuesOf_eq_nil_iff.2 (not_declares_of_declaresOnly (edges_anchor axis _ _ _ _) other)

/-- The edges of a node along an axis are those that the constraint of the axis gives. -/
theorem valuesOf_edge_placeAt (free : container.hasInFlow layer = false) (offset : Single × Single)
    (order : Int) (rotated : Bool) {axis : Axis} {edge : String}
    (isEdge : edge ∈ edgeProperties axis) :
    valuesOf (placeAt layer container offset order rotated) edge =
      valuesOf (axisAnchor layer container offset axis).declarations edge := by
  have noShift : valuesOf (shifts layer [axisAnchor layer container offset .horizontal,
      axisAnchor layer container offset .vertical] order rotated) edge = [] :=
    valuesOf_eq_nil_iff.2
      (not_declares_of_declaresOnly (shifting_shifts _ _ _ _) (edge_not_shift axis edge isEdge))
  have across : ∀ axis, ∀ edge ∈ edgeProperties axis,
      edge ∉ edgeProperties (Layout.crossAxis axis) := by
    intro axis
    cases axis <;> decide
  have empty :
      valuesOf (axisAnchor layer container offset (Layout.crossAxis axis)).declarations edge = [] :=
    valuesOf_axisAnchor_eq_nil (across axis edge isEdge)
  rw [placeAt_eq free, valuesOf_cons, if_neg (position_ne_edge axis edge isEdge), valuesOf_append,
    valuesOf_append, noShift, List.append_nil]
  cases axis with
  | horizontal =>
    rw [show valuesOf (axisAnchor layer container offset .vertical).declarations edge = []
      from empty, List.append_nil]
  | vertical =>
    rw [show valuesOf (axisAnchor layer container offset .horizontal).declarations edge = []
      from empty, List.nil_append]

theorem valuesOf_shift_placeAt (free : container.hasInFlow layer = false) (offset : Single × Single)
    (order : Int) (rotated : Bool) {property : String} (isShift : property ∈ shiftingProperties) :
    valuesOf (placeAt layer container offset order rotated) property =
      valuesOf (shifts layer [axisAnchor layer container offset .horizontal,
        axisAnchor layer container offset .vertical] order rotated) property := by
  have other : ∀ axis, property ∉ edgeProperties axis := fun axis isEdge =>
    edge_not_shift axis property isEdge isShift
  have notPosition : "position" ≠ property := by
    rintro rfl
    exact absurd isShift (by decide)
  rw [placeAt_eq free, valuesOf_cons, if_neg notPosition, valuesOf_append, valuesOf_append,
    valuesOf_axisAnchor_eq_nil (other .horizontal), valuesOf_axisAnchor_eq_nil (other .vertical)]
  rfl

theorem valuesOf_position_placeAt (free : container.hasInFlow layer = false)
    (offset : Single × Single) (order : Int) (rotated : Bool) :
    valuesOf (placeAt layer container offset order rotated) "position" = ["absolute"] := by
  have shifts : valuesOf (shifts layer [axisAnchor layer container offset .horizontal,
      axisAnchor layer container offset .vertical] order rotated) "position" = [] :=
    valuesOf_eq_nil_iff.2 (not_declares_of_declaresOnly (shifting_shifts _ _ _ _) (by decide))
  rw [placeAt_eq free, valuesOf_cons, if_pos rfl, valuesOf_append, valuesOf_append, shifts,
    valuesOf_axisAnchor_eq_nil (by decide), valuesOf_axisAnchor_eq_nil (by decide)]
  rfl

/-- The call that turns a node, if it is turned. -/
def turning (layer : Layer) (rotated : Bool) : List FunctionCall :=
  if rotated then [⟨"rotate", Css.degrees (-layer.rotation)⟩] else []

theorem isPlain_turning (layer : Layer) (rotated : Bool) :
    ∀ call ∈ turning layer rotated, call.IsPlain := by
  cases rotated with
  | false => simp [turning]
  | true =>
    have name : Text.IsOf isUnbracketed "rotate" := by decide
    have angle : Text.IsOf isUnbracketed (Css.degrees (-layer.rotation)) :=
      ((isOf_compact _).mono (isUnbracketed_of rfl rfl)).append (by decide)
    exact List.forall_mem_singleton.2 ⟨name, show "rotate".toList.head? ≠ some ' ' by decide, angle⟩

theorem shift?_turning (axis : Axis) (size : ℚ) (layer : Layer) (rotated : Bool) :
    shift? axis size (turning layer rotated) = some 0 := by
  cases rotated with
  | false => rfl
  | true => cases axis <;> rfl

/-- The shifts of a node are the translations of both axes, and then what turns it. -/
theorem valuesOf_transform_shifts {first second : Anchor}
    {movesFirst movesSecond : List FunctionCall} (shiftFirst : first.shift = valueOf? movesFirst)
    (shiftSecond : second.shift = valueOf? movesSecond) (order : Int) (rotated : Bool) :
    valuesOf (shifts layer [first, second] order rotated) "transform" =
      (valueOf? (movesFirst ++ movesSecond ++ turning layer rotated)).toList := by
  have groups := intercalate_filterMap_valueOf? [movesFirst, movesSecond, turning layer rotated]
  have turned : (valueOf? (turning layer rotated)).toList =
      if rotated then [rotation layer] else [] := by
    cases rotated with
    | false => rfl
    | true =>
      rw [turning, if_pos rfl, valueOf?, if_neg (List.cons_ne_nil _ _), List.map_singleton,
        String.intercalate_singleton, if_pos rfl]
      rfl
  have transforms :
      [first, second].filterMap Anchor.shift ++ (if rotated then [rotation layer] else []) =
      [movesFirst, movesSecond, turning layer rotated].filterMap valueOf? := by
    rw [← turned]
    simp only [List.filterMap_cons, List.filterMap_nil, shiftFirst, shiftSecond]
    cases valueOf? movesFirst <;> cases valueOf? movesSecond <;>
      cases valueOf? (turning layer rotated) <;> rfl
  have flat : [movesFirst, movesSecond, turning layer rotated].flatten =
      movesFirst ++ movesSecond ++ turning layer rotated := by simp
  rw [flat] at groups
  obtain ⟨empty_iff, same⟩ := groups
  have origin :
      valuesOf (if rotated then [⟨"transform-origin", "0 0"⟩] else []) "transform" = [] := by
    cases rotated <;> rfl
  have order' : valuesOf [⟨"z-index", toString order⟩] "transform" = [] := by simp [valuesOf_cons]
  rw [shifts, valuesOf_append, valuesOf_append, origin, order', List.nil_append, List.append_nil,
    transforms, same, valueOf?]
  by_cases empty : movesFirst ++ movesSecond ++ turning layer rotated = []
  · rw [if_pos empty, empty_iff.2 empty]
    rfl
  · rw [if_neg empty, if_neg (by simpa using mt empty_iff.1 empty)]
    simp [valuesOf_cons]

theorem valuesOf_origin_shifts (anchors : List Anchor) (order : Int) (rotated : Bool) :
    valuesOf (shifts layer anchors order rotated) "transform-origin" =
      if rotated then ["0 0"] else [] := by
  have transform : ∀ (p : Prop) [Decidable p] (value : String),
      valuesOf (if p then [] else [⟨"transform", value⟩]) "transform-origin" = [] := by
    intro p _ value
    split <;> simp [valuesOf_cons]
  have last : valuesOf [⟨"z-index", toString order⟩] "transform-origin" = [] := by
    simp [valuesOf_cons]
  rw [shifts, valuesOf_append, valuesOf_append, transform, last]
  cases rotated <;> simp [valuesOf_cons]

/-- How a browser reads what places a node in a box of the size of its container. -/
structure ReadsAs (layer : Layer) (container : Container) (place : Axis → ℚ) (rotated : Bool)
    (declarations : List Declaration) : Prop where
  absolute : valuesOf declarations "position" = ["absolute"]
  /-- The near edge of the node. -/
  start : ∀ axis, start? axis (container.extent axis).value (layer.extent axis).value declarations =
    some (place axis)
  /-- A node that is stretched has room for its size between its edges. -/
  span : ∀ axis, layer.constraints.on axis = .stretch →
    span? axis (container.extent axis).value declarations = some (layer.extent axis).value
  /-- Translations come first, and then what turns the node. -/
  functions : ∃ moves, (∀ move ∈ moves, ∃ axis, move.name = (edges axis).2.2) ∧
    functions? declarations = some (moves ++ turning layer rotated)
  single : (valuesOf declarations "transform").length ≤ 1
  /-- A node that is turned is so about its corner. -/
  origin : valuesOf declarations "transform-origin" = if rotated then ["0 0"] else []

/-- The numbers of a node along both axes. -/
def AllMeasures (layer : Layer) (container : Container) (offset : Single × Single)
    (a w e : Axis → Int) : Prop :=
  ∀ axis, Measures (along offset axis) (layer.extent axis) (container.extent axis) (a axis)
    (w axis) (e axis)

section Reading

variable {offset : Single × Single} {extent size place : Axis → ℚ}
  {moves : Axis → List FunctionCall}
  (leads : ∀ axis,
    (axisAnchor layer container offset axis).Leads axis (extent axis) (size axis) (place axis)
    (moves axis))
include leads

/-- The shifts along one axis are those of its own translations: the others and what turns a node
shift nothing. -/
theorem shift?_moves {axis : Axis} {moved : ℚ}
    (own : shift? axis (size axis) (moves axis) = some moved) (rotated : Bool) :
    shift? axis (size axis) (moves .horizontal ++ moves .vertical ++ turning layer rotated) =
      some moved := by
  have turned := shift?_turning axis (size axis) layer rotated
  rw [List.append_assoc, ← add_zero moved]
  cases axis with
  | horizontal =>
    have across := shift?_of_across .horizontal (size .horizontal)
      (leads .vertical).translates (turning layer rotated)
    exact shift?_append (leads _).translates own (across.trans turned)
  | vertical =>
    have across := shift?_of_across .vertical (size .vertical)
      (leads .horizontal).translates (moves .vertical ++ turning layer rotated)
    exact across.trans (shift?_append (leads _).translates own turned)

variable (free : container.hasInFlow layer = false) (order : Int) (rotated : Bool)
include free

theorem valuesOf_transform_placeAt :
    valuesOf (placeAt layer container offset order rotated) "transform" =
    (valueOf? (moves .horizontal ++ moves .vertical ++ turning layer rotated)).toList := by
  rw [valuesOf_shift_placeAt free offset order rotated (by decide)]
  exact valuesOf_transform_shifts (leads _).shift (leads _).shift order rotated

/-- A browser reads the translations, and then what turns the node. -/
theorem functions?_placeAt : functions? (placeAt layer container offset order rotated) =
    some (moves .horizontal ++ moves .vertical ++ turning layer rotated) := by
  rw [functions?, last?, valuesOf_transform_placeAt leads free, valueOf?]
  split_ifs with empty
  · rw [empty]
    rfl
  · refine calls?_intercalate empty fun call mem => ?_
    simp only [List.mem_append] at mem
    rcases mem with (first | second) | turn
    · exact (leads _).plain call first
    · exact (leads _).plain call second
    · exact isPlain_turning layer rotated call turn

end Reading

/-- What places a node at an offset is read as that offset, whatever its constraints are. -/
theorem readsAs_placeAt {offset : Single × Single} {a w e : Axis → Int}
    (measures : AllMeasures layer container offset a w e) (free : container.hasInFlow layer = false)
    (order : Int) (rotated : Bool) :
    ReadsAs layer container (fun axis => a axis / 2) rotated
      (placeAt layer container offset order rotated) := by
  have leads : ∀ axis, ∃ moves,
      (axisAnchor layer container offset axis).Leads axis (e axis) (w axis)
      (a axis / 2) moves := fun axis => (measures axis).leads axis (layer.constraints.on axis)
  choose moves leads using leads
  have functions := functions?_placeAt leads free order rotated
  have edges : ∀ axis, ∀ edge ∈ edgeProperties axis,
      valuesOf (placeAt layer container offset order rotated) edge =
        valuesOf (axisAnchor layer container offset axis).declarations edge :=
    fun axis edge isEdge => valuesOf_edge_placeAt free offset order rotated isEdge
  refine ⟨valuesOf_position_placeAt free offset order rotated, fun axis => ?_,
    fun axis stretched => ?_, ⟨moves .horizontal ++ moves .vertical, fun move mem => ?_, functions⟩,
    ?_, ?_⟩
  · obtain ⟨edge, moved, isEdge, isMoved, sum⟩ := (leads axis).place
    rw [(measures axis).extent.value, (measures axis).size.value, start?,
      edge?_congr axis (edges axis), isEdge, Option.bind_some, functions, Option.bind_some,
      shift?_moves leads isMoved, Option.map_some, sum]
  · rw [(measures axis).extent.value, (measures axis).size.value, span?_congr axis (edges axis),
      axisAnchor, stretched]
    exact (measures axis).span axis
  · rcases List.mem_append.1 mem with first | second
    · exact ⟨_, (leads _).translates move first⟩
    · exact ⟨_, (leads _).translates move second⟩
  · rw [valuesOf_transform_placeAt leads free]
    cases valueOf? _ <;> simp
  · rw [valuesOf_shift_placeAt free offset order rotated (by decide)]
    exact valuesOf_origin_shifts _ order rotated

end Position

end SceneMarkup
