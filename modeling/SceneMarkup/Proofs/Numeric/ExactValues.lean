import Mathlib.Algebra.Order.Field.Rat
import Mathlib.Tactic.FieldSimp
import SceneMarkup.Proofs.Numeric.Halves

/-!
# Exact values

A finite number is a rational one: its units over the units in one.

* `Binary.value`: the exact value;
* `Denotes.value`, `HasHalves.value`, `hasHundredths_iff`: whole numbers, halves and hundredths;
* `equals_iff_value_eq`: finite numbers are equal if their values are.
-/

namespace SceneMarkup

/-- The exact value of a finite number. -/
def Binary.value {f : Format} (x : Binary f) : ℚ := x.toUnits / f.one

namespace Binary

variable {f : Format} {x y : Binary f} {n : Int}

theorem cast_one_ne_zero (f : Format) : (f.one : ℚ) ≠ 0 :=
  Nat.cast_ne_zero.2 (Nat.ne_of_gt f.one_pos)

theorem Denotes.value (h : Denotes x n) : x.value = n := by
  rw [Binary.value, h.toUnits]
  push_cast
  exact mul_div_cancel_right₀ _ (cast_one_ne_zero f)

theorem HasHalves.value {x : Single} (h : HasHalves x n) : x.value = n / 2 := by
  have pos : (half : ℚ) ≠ 0 := Nat.cast_ne_zero.2 (by decide)
  rw [Binary.value, h.toUnits, Binary.single_one]
  push_cast
  field_simp

theorem hasHundredths_iff {x : Single} :
    HasHundredths x n ↔ x.isFinite = true ∧ x.value = n / 100 := by
  have units : x.value = n / 100 ↔ x.toUnits * 100 = n * Format.single.one := by
    rw [Binary.value, div_eq_div_iff (cast_one_ne_zero .single) (by norm_num)]
    norm_cast
  rw [units]
  exact ⟨fun h => ⟨h.finite, h.toUnits⟩, fun h => ⟨h.1, h.2⟩⟩

/-- Finite numbers are equal if their values are. -/
theorem equals_iff_value_eq (hx : x.isFinite = true) (hy : y.isFinite = true) :
    x.equals y = true ↔ x.value = y.value := by
  rw [Binary.value, Binary.value, div_left_inj' (cast_one_ne_zero f), Int.cast_inj, equals_iff]
  cases x with
  | finite s m _ =>
    cases y with
    | finite t n _ => simp [rank, toUnits, eq_comm]
    | infinite t => cases hy
    | nan t payload => cases hy
  | infinite s => cases hx
  | nan s payload => cases hx

end Binary

end SceneMarkup
