import Mathlib.Analysis.SpecialFunctions.Trigonometric.Basic
import SceneMarkup.Proofs.Position.ExactPlaces

/-!
# Where turned boxes lie

A rotated node begins at the corner of its box in the document, but it is turned about that corner.
So it covers another part of its container than its box does.

* `turn`, `boxAt`, `turnedBox`: points that are turned, upright boxes, and boxes that are turned
  about a corner;
* `turnedBox_quarters`: after quarter turns a box is upright again, at a `displacement` of its
  corner;
* `turnedBox_eq_boxAt_iff`: a box that is turned is an upright one at its corner only after whole
  turns;
* `turnOf`, `covered?`: the angle by which a node is turned, and what it covers, as they are read;
* `covered?_place`, `covered?_place_of_quarters`: what a node covers whose box in the document is
  known;
* `CoversBeside`, `quarter_turn_displaces`: a node that is turned by quarters covers its box in the
  document only if it is turned all the way round;
* `turnedCard_lies_above`: a card that lies above its box.
-/

namespace SceneMarkup.Position

open Binary (Denotes halfText whole)
open Css (Declaration isNumeric last? number? number?_halfText span_append)
open Scene (Axis Bounds Layer)

/-! ### The plane -/

/-- A point that is turned about the origin by an angle in degrees. Vertical coordinates grow
downwards, so the turn is to the right. -/
noncomputable def turn (degrees : ℝ) (p : ℝ × ℝ) : ℝ × ℝ :=
  (p.1 * Real.cos (degrees * Real.pi / 180) - p.2 * Real.sin (degrees * Real.pi / 180),
    p.1 * Real.sin (degrees * Real.pi / 180) + p.2 * Real.cos (degrees * Real.pi / 180))

/-- The points of an upright box with a corner and a size. -/
def boxAt (corner size : ℝ × ℝ) : Set (ℝ × ℝ) :=
  Set.uIcc corner.1 (corner.1 + size.1) ×ˢ Set.uIcc corner.2 (corner.2 + size.2)

theorem mem_boxAt {corner size p : ℝ × ℝ} : p ∈ boxAt corner size ↔
    p.1 ∈ Set.uIcc corner.1 (corner.1 + size.1) ∧ p.2 ∈ Set.uIcc corner.2 (corner.2 + size.2) :=
  Set.mem_prod

/-- The points of a box that is turned about its corner. -/
def turnedBox (degrees : ℝ) (corner size : ℝ × ℝ) : Set (ℝ × ℝ) :=
  (fun p => corner + turn degrees p) '' boxAt 0 size

theorem turn_neg_turn (degrees : ℝ) (p : ℝ × ℝ) : turn (-degrees) (turn degrees p) = p := by
  have one := Real.sin_sq_add_cos_sq (degrees * Real.pi / 180)
  have opposite : -degrees * Real.pi / 180 = -(degrees * Real.pi / 180) := by ring
  simp only [turn, opposite, Real.cos_neg, Real.sin_neg]
  refine Prod.ext ?_ ?_
  · linear_combination p.1 * one
  · linear_combination p.2 * one

/-- A point is in a box that is turned if it is in the box after it is turned back. -/
theorem mem_turnedBox_iff {degrees : ℝ} {corner size p : ℝ × ℝ} :
    p ∈ turnedBox degrees corner size ↔ turn (-degrees) (p - corner) ∈ boxAt 0 size := by
  constructor
  · rintro ⟨q, inside, rfl⟩
    rwa [add_sub_cancel_left, turn_neg_turn]
  · intro inside
    refine ⟨_, inside, ?_⟩
    have back := turn_neg_turn (-degrees) (p - corner)
    rw [neg_neg] at back
    dsimp only
    rw [back, add_sub_cancel]

/-! ### Quarter turns -/

/-- A point after so many quarter turns to the right. -/
def quarterTurn (quarters : ℤ) (p : ℝ × ℝ) : ℝ × ℝ :=
  match quarters % 4 with
  | 1 => (-p.2, p.1)
  | 2 => (-p.1, -p.2)
  | 3 => (p.2, -p.1)
  | _ => p

theorem turn_quarters (quarters : ℤ) (p : ℝ × ℝ) :
    turn (90 * quarters) p = quarterTurn quarters p := by
  -- Whole turns lead back, and less than four quarters are left.
  obtain ⟨whole, rest, split, left⟩ : ∃ n r : ℤ,
    quarters = 4 * n + r ∧ (r = 0 ∨ r = 1 ∨ r = 2 ∨ r = 3) :=
    ⟨quarters / 4, quarters % 4, by omega, by omega⟩
  have angle : 90 * (quarters : ℝ) * Real.pi / 180 =
      rest * (Real.pi / 2) + whole * (2 * Real.pi) := by
    rw [split]
    push_cast
    ring
  have remainder : quarters % 4 = rest := by omega
  simp only [turn, angle, Real.cos_add_int_mul_two_pi, Real.sin_add_int_mul_two_pi, quarterTurn,
    remainder]
  have half : (2 : ℝ) * (Real.pi / 2) = Real.pi := by ring
  have most : (3 : ℝ) * (Real.pi / 2) = Real.pi + Real.pi / 2 := by ring
  rcases left with rfl | rfl | rfl | rfl
  · simp
  · simp
  · simp [half]
  · simp [most, Real.cos_add, Real.sin_add]

/-- How far a box lies from where it would be upright, after so many quarter turns to the left. -/
def displacement (quarters : ℤ) (size : ℝ × ℝ) : ℝ × ℝ :=
  match quarters % 4 with
  | 1 => (0, -size.1)
  | 2 => (-size.1, -size.2)
  | 3 => (-size.2, 0)
  | _ => 0

theorem displacement_of_four_dvd {quarters : ℤ} (whole : 4 ∣ quarters) (size : ℝ × ℝ) :
    displacement quarters size = 0 := by
  rw [displacement, Int.emod_eq_zero_of_dvd whole]
  rfl

/-- A box with an area lies elsewhere, unless it is turned all the way round. -/
theorem displacement_eq_zero_iff {quarters : ℤ} {size : ℝ × ℝ} (wide : size.1 ≠ 0)
    (high : size.2 ≠ 0) :
    displacement quarters size = 0 ↔ 4 ∣ quarters := by
  obtain left | left | left | left :
      quarters % 4 = 0 ∨ quarters % 4 = 1 ∨ quarters % 4 = 2 ∨ quarters % 4 = 3 := by
    omega
  all_goals simp [displacement, left, Int.dvd_iff_emod_eq_zero, Prod.ext_iff, wide, high]

/-- The size of a box after so many quarter turns. -/
def quarterSize (quarters : ℤ) (size : ℝ × ℝ) : ℝ × ℝ := if 2 ∣ quarters then size else size.swap

theorem sub_mem_uIcc_iff {x start length : ℝ} :
    x - start ∈ Set.uIcc 0 length ↔ x ∈ Set.uIcc start (start + length) := by
  simp only [Set.mem_uIcc, sub_le_iff_le_add', le_sub_iff_add_le', add_zero]

theorem neg_sub_mem_uIcc_iff {x start length : ℝ} :
    -(x - start) ∈ Set.uIcc 0 length ↔
      x ∈ Set.uIcc (start + -length) (start + -length + length) := by
  rw [neg_sub, add_assoc, neg_add_cancel, add_zero, Set.uIcc_comm]
  simp only [Set.mem_uIcc, sub_nonneg, sub_nonpos]
  constructor <;> rintro (⟨_, _⟩ | ⟨_, _⟩)
  all_goals first | exact .inl ⟨by linarith, by linarith⟩ | exact .inr ⟨by linarith, by linarith⟩

/-- A box after so many quarter turns to the left is an upright box beside its corner. -/
theorem turnedBox_quarters (quarters : ℤ) (corner size : ℝ × ℝ) :
    turnedBox (-(90 * quarters)) corner size =
      boxAt (corner + displacement quarters size) (quarterSize quarters size) := by
  ext p
  rw [mem_turnedBox_iff, neg_neg, turn_quarters, mem_boxAt, mem_boxAt]
  obtain ⟨left, half⟩ | ⟨left, half⟩ | ⟨left, half⟩ | ⟨left, half⟩ :
      (quarters % 4 = 0 ∧ 2 ∣ quarters) ∨ (quarters % 4 = 1 ∧ ¬ 2 ∣ quarters) ∨
        (quarters % 4 = 2 ∧ 2 ∣ quarters) ∨ (quarters % 4 = 3 ∧ ¬ 2 ∣ quarters) := by
    omega
  all_goals
    simp only [quarterTurn, displacement, quarterSize, left, half, reduceIte, Prod.fst_sub,
      Prod.snd_sub, Prod.fst_add, Prod.snd_add, Prod.fst_zero, Prod.snd_zero, Prod.fst_swap,
      Prod.snd_swap, zero_add, add_zero, sub_mem_uIcc_iff, neg_sub_mem_uIcc_iff, and_comm]

/-! ### Boxes that are the same -/

theorem boxAt_eq_iff {corner corner' size size' : ℝ × ℝ} : boxAt corner size = boxAt corner' size' ↔
    Set.uIcc corner.1 (corner.1 + size.1) = Set.uIcc corner'.1 (corner'.1 + size'.1) ∧
      Set.uIcc corner.2 (corner.2 + size.2) = Set.uIcc corner'.2 (corner'.2 + size'.2) :=
  Set.prod_eq_prod_iff_of_nonempty (Set.nonempty_uIcc.prod Set.nonempty_uIcc)

/-- Boxes of one size are the same if their corners are. -/
theorem boxAt_left_inj {corner corner' size : ℝ × ℝ} :
    boxAt corner size = boxAt corner' size ↔ corner = corner' := by
  have start : ∀ {a b length : ℝ}, Set.uIcc a (a + length) = Set.uIcc b (b + length) → a = b := by
    intro a b length same
    have least := ((Set.Icc_eq_Icc_iff inf_le_sup).1 same).1
    have shift : ∀ c : ℝ, c ⊓ (c + length) = c + 0 ⊓ length := fun c => by
      rw [← min_add_add_left, add_zero]
    rw [shift, shift] at least
    exact add_right_cancel least
  refine ⟨fun same => ?_, fun same => by rw [same]⟩
  obtain ⟨horizontal, vertical⟩ := boxAt_eq_iff.1 same
  exact Prod.ext (start horizontal) (start vertical)

/-- Boxes at one corner are the same if their sizes are. -/
theorem boxAt_right_inj {corner size size' : ℝ × ℝ} :
    boxAt corner size = boxAt corner size' ↔ size = size' := by
  refine ⟨fun same => ?_, fun same => by rw [same]⟩
  obtain ⟨horizontal, vertical⟩ := boxAt_eq_iff.1 same
  exact Prod.ext (add_left_cancel (Set.uIcc_injective_left _ horizontal))
    (add_left_cancel (Set.uIcc_injective_left _ vertical))

/-! ### Whole turns -/

/-- A box is where it was after whole turns. -/
theorem turnedBox_whole (turns : ℤ) (corner size : ℝ × ℝ) :
    turnedBox (360 * turns) corner size = boxAt corner size := by
  have quarters : (360 * turns : ℝ) = -(90 * ((-4 * turns : ℤ) : ℝ)) := by
    push_cast
    ring
  have round : (4 : ℤ) ∣ -4 * turns := by omega
  have even : (2 : ℤ) ∣ -4 * turns := by omega
  rw [quarters, turnedBox_quarters, displacement_of_four_dvd round, quarterSize, if_pos even,
    add_zero]

theorem exists_whole_turn {degrees : ℝ} (turned : Real.cos (degrees * Real.pi / 180) = 1) :
    ∃ turns : ℤ, degrees = 360 * turns := by
  obtain ⟨n, angle⟩ := (Real.cos_eq_one_iff _).1 turned
  have pos := Real.pi_ne_zero
  field_simp at angle
  exact ⟨n, by linarith⟩

/-- If a box that is turned stays below and right of its corner, it is turned all the way round. -/
theorem cos_eq_one_of_nonneg {degrees : ℝ} {size : ℝ × ℝ} (wide : 0 < size.1) (high : 0 < size.2)
    (inside : ∀ p ∈ boxAt 0 size, 0 ≤ (turn degrees p).1 ∧ 0 ≤ (turn degrees p).2) :
    Real.cos (degrees * Real.pi / 180) = 1 := by
  -- The two edges at the corner may not leave the quarter of the plane that the box lies in.
  have top := inside (size.1, 0) (mem_boxAt.2 (by simp))
  have side := inside (0, size.2) (mem_boxAt.2 (by simp))
  simp only [turn, zero_mul, sub_zero, add_zero, zero_sub, zero_add] at top side
  have cosine := nonneg_of_mul_nonneg_right top.1 wide
  have above := nonneg_of_mul_nonneg_right top.2 wide
  have below : Real.sin (degrees * Real.pi / 180) ≤ 0 := by nlinarith [side.1]
  have one := Real.sin_sq_add_cos_sq (degrees * Real.pi / 180)
  rw [le_antisymm below above] at one
  nlinarith

/-- A box that is turned covers an upright box at the same corner only after whole turns. -/
theorem turnedBox_eq_boxAt_iff {degrees : ℝ} {corner size size' : ℝ × ℝ} (wide : 0 < size.1)
    (high : 0 < size.2) (wide' : 0 ≤ size'.1) (high' : 0 ≤ size'.2) :
    turnedBox degrees corner size = boxAt corner size' ↔
      (∃ n : ℤ, degrees = 360 * n) ∧ size = size' := by
  constructor
  · intro same
    have inside : ∀ p ∈ boxAt 0 size, 0 ≤ (turn degrees p).1 ∧ 0 ≤ (turn degrees p).2 := by
      intro p mem
      have covered : corner + turn degrees p ∈ boxAt corner size' := same ▸ ⟨p, mem, rfl⟩
      obtain ⟨horizontal, vertical⟩ := mem_boxAt.1 covered
      rw [Set.uIcc_of_le (by linarith)] at horizontal vertical
      exact ⟨(le_add_iff_nonneg_right _).1 horizontal.1, (le_add_iff_nonneg_right _).1 vertical.1⟩
    obtain ⟨n, rfl⟩ := exists_whole_turn (cos_eq_one_of_nonneg wide high inside)
    rw [turnedBox_whole] at same
    exact ⟨⟨n, rfl⟩, boxAt_right_inj.1 same⟩
  · rintro ⟨⟨n, rfl⟩, rfl⟩
    exact turnedBox_whole n corner size

/-! ### What turns a node -/

/-- An angle in degrees. -/
def degrees? (text : List Char) : Option ℚ :=
  match text.dropWhile isNumeric with
  | ['d', 'e', 'g'] => number? (text.takeWhile isNumeric)
  | _ => none

/-- The angle by which functions turn a node: that of the last call. What cannot be read does not
turn. -/
def turnOf (declarations : List Declaration) : ℚ :=
  match (functions? declarations).bind List.getLast? with
  | some ⟨"rotate", angle⟩ => (degrees? angle.toList).getD 0
  | _ => 0

/-- A number of halves reads back from degrees. -/
theorem degrees?_halfText (n : ℤ) : degrees? (halfText n ++ "deg").toList = some (n / 2 : ℚ) := by
  obtain ⟨front, rest⟩ :=
    span_append (b := ['d', 'e', 'g']) (Css.isNumeric_halfText n) (by simp; decide)
  rw [String.toList_append, show "deg".toList = ['d', 'e', 'g'] from rfl, degrees?, rest, front,
    number?_halfText]
  rfl

section Reading

variable {layer : Layer} {container : Container} {place : Axis → ℚ}
  {declarations : List Declaration}

/-- A node is turned by the angle that is written for it. -/
theorem ReadsAs.turnOf (reads : ReadsAs layer container place true declarations) :
    Position.turnOf declarations = (degrees? (Css.degrees (-layer.rotation)).toList).getD 0 := by
  obtain ⟨moves, -, functions⟩ := reads.functions
  rw [Position.turnOf, functions, Option.bind_some, turning, if_pos rfl, List.getLast?_concat]
  rfl

/-- A moderate number of quarter turns is written as it is, to the other side. -/
theorem ReadsAs.turnOf_quarters (reads : ReadsAs layer container place true declarations)
    {quarters : ℤ} (quarter : Denotes layer.rotation (90 * quarters))
    (few : quarters.natAbs ≤ 3728) :
    Position.turnOf declarations = -(90 * quarters) := by
  have power : Nat.pow 2 24 = 16777216 := rfl
  have opposite : Denotes (-layer.rotation) (-(90 * quarters)) := by
    rw [Denotes, Int.neg_mul]
    exact Binary.HasValue.neg quarter
  rw [reads.turnOf, Css.degrees, opposite.halves.compact (by omega), degrees?_halfText,
    Option.getD_some]
  push_cast
  ring

/-- The size of a node. -/
noncomputable def nodeSize (layer : Layer) : ℝ × ℝ := (layer.width.value, layer.height.value)

/-- The part of its container that a box of the size of a node covers, given what places it: its
corner is placed, and it is turned about its corner. -/
noncomputable def covered? (layer : Layer) (container : Container)
    (declarations : List Declaration) :
    Option (Set (ℝ × ℝ)) :=
  if last? declarations "transform-origin" = some "0 0" then
    (start? .horizontal container.width.value layer.width.value declarations).bind fun left : ℚ =>
      (start? .vertical container.height.value layer.height.value declarations).map fun top : ℚ =>
        turnedBox (turnOf declarations) (left, top) (nodeSize layer)
  else none

theorem ReadsAs.covered? (reads : ReadsAs layer container place true declarations) :
    Position.covered? layer container declarations =
      some (turnedBox (Position.turnOf declarations) (place .horizontal, place .vertical)
        (nodeSize layer)) := by
  have origin : last? declarations "transform-origin" = some "0 0" := by
    rw [last?, reads.origin]
    rfl
  have left := reads.start .horizontal
  have top := reads.start .vertical
  simp only [Container.extent, Layer.extent] at left top
  rw [Position.covered?, if_pos origin, left, Option.bind_some, top, Option.map_some]

end Reading

/-! ### Nodes -/

/-- The corner of a box in the document, counted from that of another. -/
noncomputable def cornerIn (own outer : Bounds) : ℝ × ℝ :=
  (own.x.value - outer.x.value, own.y.value - outer.y.value)

/-- The size of a box in the document. -/
noncomputable def boxSize (own : Bounds) : ℝ × ℝ := (own.width.value, own.height.value)

section Nodes

variable {options : Options} {layer : Layer} {container : Container} {own outer : Bounds}
  (rotated : layer.isRotated options.rotationTolerance = true)
    (free : container.hasInFlow layer = false)
  (known : layer.bounds = some own) (around : container.bounds = some outer)
  (onGrid : isBoxedOnGrid layer container own outer = true)
include rotated free known around onGrid

/-- A rotated node is read to begin at the corner of its box in the document. -/
theorem readsAs_place_of_bounds (order : Int) :
    ReadsAs layer container (fun axis => (startOf own axis).value - (startOf outer axis).value) true
      (place options layer container order) := by
  have measures : AllMeasures layer container (offset options layer container)
      (fun axis => 2 * (whole (startOf own axis) - whole (startOf outer axis)))
      (fun axis => whole (layer.extent axis)) (fun axis => whole (container.extent axis)) := by
    intro axis
    obtain ⟨size, extent, -, -, -⟩ := isModerate_of_isBoxedOnGrid onGrid axis
    obtain ⟨corner, small⟩ := denotes_offset_of_bounds onGrid rotated known around axis
    have near :
        (2 * (whole (startOf own axis) - whole (startOf outer axis))).natAbs ≤ 393216 := by omega
    exact ⟨corner.halves, (denotes_of_isModerate size).1, (denotes_of_isModerate extent).1, near,
      (denotes_of_isModerate size).2, (denotes_of_isModerate extent).2⟩
  have places :
      (fun axis => ((2 * (whole (startOf own axis) - whole (startOf outer axis)) : Int) : ℚ) / 2) =
      fun axis => (startOf own axis).value - (startOf outer axis).value := by
    funext axis
    obtain ⟨-, -, place, -, place'⟩ := isModerate_of_isBoxedOnGrid onGrid axis
    rw [(denotes_of_isModerate place).1.value, (denotes_of_isModerate place').1.value]
    push_cast
    ring
  rw [← places, place, rotated]
  exact readsAs_placeAt measures free order true

theorem covered?_place (order : Int) :
    covered? layer container (place options layer container order) =
      some (turnedBox (turnOf (place options layer container order)) (cornerIn own outer)
        (nodeSize layer)) := by
  rw [(readsAs_place_of_bounds rotated free known around onGrid order).covered?]
  simp only [startOf, cornerIn, Rat.cast_sub]

/-- After so many quarter turns a node covers an upright box beside the corner of its box in the
document. -/
theorem covered?_place_of_quarters {quarters : ℤ} (quarter : Denotes layer.rotation (90 * quarters))
    (few : quarters.natAbs ≤ 3728) (order : Int) :
    covered? layer container (place options layer container order) =
      some (boxAt (cornerIn own outer + displacement quarters (nodeSize layer))
        (quarterSize quarters (nodeSize layer))) := by
  have angle :=
    (readsAs_place_of_bounds rotated free known around onGrid order).turnOf_quarters quarter few
  rw [covered?_place rotated free known around onGrid, angle, ← turnedBox_quarters]
  push_cast
  rfl

end Nodes

/-- What a node covers that is turned by quarter turns, among its siblings by a stacking order. -/
structure CoversBeside (layer : Layer) (container : Container) (own outer : Bounds) (quarters : ℤ)
    (declarations : List Declaration) : Prop where
  /-- Its corner is that of its box in the document, and it is turned about its corner. -/
  covers : covered? layer container declarations =
    some (turnedBox (turnOf declarations) (cornerIn own outer) (nodeSize layer))
  /-- It covers its box in the document only if it is turned all the way round. -/
  exact_iff : 0 < (nodeSize layer).1 → 0 < (nodeSize layer).2 →
    (covered? layer container declarations = some (boxAt (cornerIn own outer) (boxSize own)) ↔
      (∃ n : ℤ, turnOf declarations = 360 * n) ∧ nodeSize layer = boxSize own)
  /-- Quarters up to this number are written as they are, and lead to a place beside the box. -/
  displaced : quarters.natAbs ≤ 3728 → turnOf declarations = -(90 * quarters) ∧
    covered? layer container declarations =
      some (boxAt (cornerIn own outer + displacement quarters (nodeSize layer)) (boxSize own))
  /-- They lead to the box itself only if they are whole turns. -/
  four_dvd_iff : quarters.natAbs ≤ 3728 → (nodeSize layer).1 ≠ 0 → (nodeSize layer).2 ≠ 0 →
    (covered? layer container declarations =
      some (boxAt (cornerIn own outer) (boxSize own)) ↔ 4 ∣ quarters)

/-- **A node that is turned by quarter turns lies beside its box in the document.** Its corner is
put where the box begins, but it is turned about that corner. So unless it is turned all the way
round, it covers another part of the container, as far away as its size. -/
theorem quarter_turn_displaces {options : Options} {layer : Layer} {container : Container}
    {own outer : Bounds} {quarters : ℤ} (rotated : layer.isRotated options.rotationTolerance = true)
    (free : container.hasInFlow layer = false) (known : layer.bounds = some own)
    (around : container.bounds = some outer)
    (onGrid : isBoxedOnGrid layer container own outer = true)
    (quarter : Denotes layer.rotation (90 * quarters))
    (fits : boxSize own = quarterSize quarters (nodeSize layer)) (index count : ℤ) :
    CoversBeside layer container own outer quarters
      (place options layer container (stackingOrder container.kind index count)) := by
  have covers :=
    covered?_place rotated free known around onGrid (stackingOrder container.kind index count)
  have displaced := fun few =>
    covered?_place_of_quarters rotated free known around onGrid quarter few
      (stackingOrder container.kind index count)
  rw [← fits] at displaced
  refine ⟨covers, fun wide high => ?_, fun few => ⟨?_, displaced few⟩, fun few wide high => ?_⟩
  · have positive : 0 < (boxSize own).1 ∧ 0 < (boxSize own).2 := by
      rw [fits, quarterSize]
      split
      · exact ⟨wide, high⟩
      · exact ⟨high, wide⟩
    rw [covers, Option.some.injEq, turnedBox_eq_boxAt_iff wide high positive.1.le positive.2.le]
    refine and_congr_left fun _ => exists_congr fun n => ?_
    exact_mod_cast Iff.rfl
  · exact (readsAs_place_of_bounds rotated free known around onGrid _).turnOf_quarters quarter few
  · rw [displaced few, Option.some.injEq, boxAt_left_inj, add_eq_left,
      displacement_eq_zero_iff wide high]

theorem value_ofNat {n : ℕ} (few : n ≤ Nat.pow 2 24) : (Binary.ofNat n : Single).value = n :=
  (Binary.denotes_ofNat (by decide) few).value

/-- A card that is turned upside down, and its box in the document. -/
def flippedCard : Layer :=
  { id := "11:3", kind := .rectangle, x := 40, y := 30, width := 30, height := 10, rotation := 180
    bounds := some ⟨10, 20, 30, 10⟩ }

/-- What the card is placed in. -/
def cardContainer : Container := ⟨.frame false false, 100, 100, 0, 0, some ⟨0, 0, 100, 100⟩⟩

theorem flippedCard_displaced :
    flippedCard.isRotated (Options.rotationTolerance {}) = true ∧
      cardContainer.hasInFlow flippedCard = false ∧
      isBoxedOnGrid flippedCard cardContainer ⟨10, 20, 30, 10⟩ ⟨0, 0, 100, 100⟩ = true ∧
      CoversBeside flippedCard cardContainer ⟨10, 20, 30, 10⟩ ⟨0, 0, 100, 100⟩ 2
        (place {} flippedCard cardContainer (stackingOrder cardContainer.kind 0 1)) := by
  have rotated : flippedCard.isRotated (Options.rotationTolerance {}) = true := by decide +kernel
  have onGrid :
      isBoxedOnGrid flippedCard cardContainer ⟨10, 20, 30, 10⟩ ⟨0, 0, 100, 100⟩ = true := by
    decide +kernel
  have quarter : Denotes (180 : Single) (90 * 2) := Binary.denotes_ofNat (by decide) (by decide)
  have fits : boxSize ⟨10, 20, 30, 10⟩ = quarterSize 2 (nodeSize flippedCard) := by
    rw [quarterSize, if_pos (by decide)]
    rfl
  exact ⟨rotated, rfl, onGrid, quarter_turn_displaces rotated rfl rfl rfl onGrid quarter fits 0 1⟩

/-- A card that is turned to the left by a quarter, and its box in the document. -/
def turnedCard : Layer :=
  { id := "11:2", kind := .rectangle, x := 10, y := 50, width := 30, height := 10, rotation := 90
    bounds := some ⟨10, 20, 10, 30⟩ }

/-- The card lies above its box in the document. -/
theorem turnedCard_lies_above :
    covered? turnedCard cardContainer
        (place {} turnedCard cardContainer (stackingOrder cardContainer.kind 0 1)) =
      some (boxAt (10, -10) (10, 30)) ∧
    boxAt (cornerIn ⟨10, 20, 10, 30⟩ ⟨0, 0, 100, 100⟩) (boxSize ⟨10, 20, 10, 30⟩) =
      boxAt (10, 20) (10, 30) ∧
    boxAt (10, -10) (10, 30) ≠ boxAt (10, 20) (10, 30) := by
  have rotated : turnedCard.isRotated (Options.rotationTolerance {}) = true := by decide +kernel
  have onGrid :
      isBoxedOnGrid turnedCard cardContainer ⟨10, 20, 10, 30⟩ ⟨0, 0, 100, 100⟩ = true := by
    decide +kernel
  have quarter : Denotes (90 : Single) (90 * 1) := Binary.denotes_ofNat (by decide) (by decide)
  have zero : (0 : Single).value = (0 : ℕ) := value_ofNat (by decide)
  have ten : (10 : Single).value = (10 : ℕ) := value_ofNat (by decide)
  have twenty : (20 : Single).value = (20 : ℕ) := value_ofNat (by decide)
  have thirty : (30 : Single).value = (30 : ℕ) := value_ofNat (by decide)
  have corner : cornerIn ⟨10, 20, 10, 30⟩ ⟨0, 0, 100, 100⟩ = (10, 20) := by
    norm_num [cornerIn, zero, ten, twenty]
  have size : nodeSize turnedCard = (30, 10) := by
    norm_num [nodeSize, turnedCard, ten, thirty]
  have box : boxSize ⟨10, 20, 10, 30⟩ = (10, 30) := by
    norm_num [boxSize, ten, thirty]
  refine ⟨?_, by rw [corner, box], ?_⟩
  · rw [covered?_place_of_quarters rotated rfl rfl rfl onGrid quarter (by decide), corner, size]
    norm_num [displacement, quarterSize]
  · rw [Ne, boxAt_left_inj, Prod.mk.injEq]
    norm_num

end SceneMarkup.Position
