import Mathlib.Tactic.Ring
import SceneMarkup.Proofs.Numeric.Widening

/-!
# Exact products and quotients

A product or a quotient that a format has is exact, and so is the whole number nearest to a whole
number.

* `Format.holds_mul_pow`: a format has every number of few bits;
* `HasValue.mul`, `HasValue.div`: products and quotients that a format has;
* `Denotes.roundHalfAway`: a whole number is the nearest one to itself.
-/

namespace SceneMarkup

/-- A format has every number of few bits, wherever they stand below the limit. -/
theorem Format.holds_mul_pow {f : Format} {n step : Nat} (few : n ≤ Nat.pow 2 f.precision)
    (low : f.precision + step < Nat.pow 2 (f.exponentBits - 1) + f.unitBits) :
    f.Holds (n * Nat.pow 2 step) := by
  refine ⟨?_, f.mod_shift_of_le few⟩
  calc
    n * Nat.pow 2 step ≤ Nat.pow 2 f.precision * Nat.pow 2 step := Nat.mul_le_mul_right _ few
    _ = Nat.pow 2 (f.precision + step) := (Nat.pow_add ..).symm
    _ < f.limit := Nat.pow_lt_pow_right (by decide) low

namespace Binary

variable {f : Format} {x y : Binary f} {a b c : Int}

theorem natAbs_signed (negative : Bool) (n : Nat) : (signed negative n).natAbs = n := by
  cases negative <;> simp [signed]

theorem signed_bne (s t : Bool) (m n : Nat) :
    signed (s != t) (m * n) = signed s m * signed t n := by
  cases s <;> cases t <;> simp [signed]

/-- A product that the format has is exact. -/
theorem HasValue.mul (hx : HasValue x a) (hy : HasValue y b) (exact : c * f.one = a * b)
    (holds : f.Holds c.natAbs) : HasValue (x * y) c := by
  obtain ⟨finite, rfl⟩ := hx
  obtain ⟨finite', rfl⟩ := hy
  cases x with
  | finite s m _ =>
    cases y with
    | finite t n _ =>
      have value : c * f.one = signed (s != t) (m * n) := exact.trans (signed_bne s t m n).symm
      have size : m * n = c.natAbs * f.one := by
        rw [← natAbs_signed (s != t) (m * n), ← value, Int.natAbs_mul, Int.natAbs_natCast]
      show HasValue (round (s != t) (m * n) f.one) c
      rw [size, signed_mul] at value
      rw [size, round_mul _ f.one_pos holds]
      exact ⟨rfl,
        (Int.eq_of_mul_eq_mul_right (Int.natCast_ne_zero.2 (Nat.ne_of_gt f.one_pos)) value).symm⟩
    | infinite t => cases finite'
    | nan t payload => cases finite'
  | infinite s => cases finite
  | nan s payload => cases finite

/-- A quotient that the format has is exact. -/
theorem HasValue.div (hx : HasValue x a) (hy : HasValue y b) (nonzero : b ≠ 0)
    (exact : c * b = a * f.one) (holds : f.Holds c.natAbs) : HasValue (x / y) c := by
  obtain ⟨finite, rfl⟩ := hx
  obtain ⟨finite', rfl⟩ := hy
  cases x with
  | finite s m _ =>
    cases y with
    | finite t n _ =>
      have someUnits : n ≠ 0 :=
        fun zero => nonzero (show signed t n = 0 by rw [zero]; cases t <;> rfl)
      have size : m * f.one = c.natAbs * n := by
        have magnitudes := congrArg Int.natAbs exact
        rw [Int.natAbs_mul, Int.natAbs_mul, Int.natAbs_natCast] at magnitudes
        rw [← natAbs_signed s m, ← natAbs_signed t n]
        exact magnitudes.symm
      have value : c * n = signed (s != t) c.natAbs * n := by
        have exact : c * signed t n = signed s m * f.one := exact
        rw [← signed_mul, ← size, signed_mul]
        cases s <;> cases t <;> grind [signed]
      show HasValue (if n = 0 then _ else round (s != t) (m * f.one) n) c
      rw [if_neg someUnits, size, round_mul _ (Nat.pos_of_ne_zero someUnits) holds]
      exact ⟨rfl, (Int.eq_of_mul_eq_mul_right (Int.natCast_ne_zero.2 someUnits) value).symm⟩
    | infinite t => cases finite'
    | nan t payload => cases finite'
  | infinite s => cases finite
  | nan s payload => cases finite

/-- A whole number is the nearest one to itself. -/
theorem Denotes.roundHalfAway (hx : Denotes x a) : Denotes x.roundHalfAway a := by
  obtain ⟨finite, value⟩ := hx
  cases x with
  | finite s m holds =>
    have size : m = a.natAbs * f.one := by
      rw [← natAbs_signed s m, show signed s m = a * f.one from value, Int.natAbs_mul,
        Int.natAbs_natCast]
    have whole : (2 * m + f.one) / (2 * f.one) * f.one = m := by
      have shape : 2 * m + f.one = f.one + a.natAbs * (2 * f.one) := by
        rw [size]
        ring
      rw [shape, Nat.add_mul_div_right _ _ (Nat.mul_pos (by decide) f.one_pos),
        Nat.div_eq_of_lt (by have := f.one_pos; omega), Nat.zero_add, ← size]
    show Denotes (round s ((2 * m + f.one) / (2 * f.one) * f.one) 1) a
    rw [whole, round_of_holds s holds]
    exact ⟨finite, value⟩
  | infinite s => cases finite
  | nan s payload => cases finite

end Binary

end SceneMarkup
