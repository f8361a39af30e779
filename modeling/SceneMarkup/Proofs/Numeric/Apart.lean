import SceneMarkup.Proofs.Numeric.Magnitude

/-!
# How far from zero results are

Rounding does not bring a magnitude below a power of two that it reaches. So the multiple of a
hundredth that is nearest to a number is zero, or its magnitude is not much less than a hundredth.

* `pow_le_nearest`: the magnitude nearest to a quotient reaches the powers of two that the quotient
  reaches;
* `Apart`: a number that is zero or of at least some magnitude;
* `Apart.mul`, `Apart.div`, `Apart.roundHalfAway`: products, quotients and whole numbers;
* `apart_toHundredth`, `hundredths_pos`: so what is left of a number in hundredths counts as one at
  least.
-/

namespace SceneMarkup

/-- A quotient of more than a half is not rounded to zero. -/
theorem roundDiv_pos {num den : Nat} (pos : 0 < den) (more : den < 2 * num) :
    0 < roundDiv num den := by
  unfold roundDiv
  dsimp only
  rcases Nat.lt_or_ge num den with less | le
  · rw [Nat.div_eq_of_lt less, Nat.mod_eq_of_lt less, if_neg (by omega), if_pos more]
    exact Nat.one_pos
  · exact (Nat.div_pos le pos).trans_le (le_roundDiv num den)

namespace Format

variable {f : Format} {num den k : Nat}

/-- Rounding keeps the leading bit of a quotient, if no higher one comes up. -/
theorem pow_log2_le_nearest (nonzero : num / den ≠ 0) :
    Nat.pow 2 (num / den).log2 ≤ f.nearest num den := by
  have low : f.shift (num / den) ≤ (num / den).log2 := by
    have pos := f.precision_pos
    unfold shift
    omega
  have split : Nat.pow 2 (num / den).log2 =
      Nat.pow 2 ((num / den).log2 - f.shift (num / den)) * Nat.pow 2 (f.shift (num / den)) := by
    simp only [Nat.pow_eq, ← Nat.pow_add, Nat.sub_add_cancel low]
  have reached : Nat.pow 2 (num / den).log2 ≤ num / den := Nat.log2_self_le nonzero
  rw [split] at reached ⊢
  refine Nat.mul_le_mul_right _ (le_trans ?_ (le_roundDiv _ _))
  rw [← Nat.div_div_eq_div_mul]
  exact (Nat.le_div_iff_mul_le (Nat.two_pow_pos _)).2 reached

/-- The magnitude nearest to a quotient reaches the powers of two that the quotient reaches. -/
theorem pow_le_nearest (pos : 0 < den) (le : Nat.pow 2 k * den ≤ num) :
    Nat.pow 2 k ≤ f.nearest num den := by
  have reached : Nat.pow 2 k ≤ num / den := (Nat.le_div_iff_mul_le pos).2 le
  have nonzero : num / den ≠ 0 := ((Nat.two_pow_pos k).trans_le reached).ne'
  have bits : k ≤ (num / den).log2 := (Nat.le_log2 nonzero).2 reached
  exact (Nat.pow_le_pow_right (by decide) bits).trans (pow_log2_le_nearest nonzero)

theorem nearest_zero : f.nearest 0 den = 0 := by
  have zero : roundDiv 0 (den * Nat.pow 2 (f.shift (0 / den))) = 0 := by
    unfold roundDiv
    simp
  rw [nearest, zero, Nat.zero_mul]

end Format

namespace Binary

variable {f : Format} {x y : Binary f} {num den j k : Nat}

/-- A number that is zero or of at least so many powers of two of units, or infinite. -/
def Apart (k : Nat) : Binary f → Prop
  | .finite _ units _ => units = 0 ∨ Nat.pow 2 k ≤ units
  | .infinite _ => True
  | .nan .. => False

/-- There is no magnitude between zero and the unit. -/
theorem apart_zero (isNumber : ∀ negative payload, x ≠ .nan negative payload) : Apart 0 x := by
  cases x with
  | finite negative units holds => exact Nat.eq_zero_or_pos units
  | infinite negative => exact trivial
  | nan negative payload => exact (isNumber negative payload rfl).elim

theorem apart_round (negative : Bool) (pos : 0 < den) (apart : num = 0 ∨ Nat.pow 2 k * den ≤ num) :
    Apart k (round negative num den : Binary f) := by
  unfold round
  split
  · rcases apart with rfl | le
    · exact .inl Format.nearest_zero
    · exact .inr (Format.pow_le_nearest pos le)
  · exact trivial

/-- A whole number has the magnitude of one at least. -/
theorem Apart.roundHalfAway (apart : Apart k x) : Apart f.unitBits x.roundHalfAway := by
  cases x with
  | finite negative units holds =>
    refine apart_round negative Nat.one_pos ?_
    rw [Nat.mul_one]
    rcases Nat.eq_zero_or_pos ((2 * units + f.one) / (2 * f.one)) with zero | positive
    · exact .inl (by rw [zero, Nat.zero_mul])
    · exact .inr (Nat.le_mul_of_pos_left f.one positive)
  | infinite negative => exact trivial
  | nan negative payload => exact apart.elim

/-- A product with a number of at least one is a number, and zero only if it has to be. -/
theorem Apart.mul (hx : Apart 0 x) (finite : y.isFinite = true) (large : f.one ≤ y.toUnits.natAbs) :
    Apart 0 (x * y) := by
  cases y with
  | finite t n _ =>
    rw [toUnits, natAbs_signed] at large
    cases x with
    | finite s m _ =>
      refine apart_round (s != t) f.one_pos
        (hx.imp (fun zero => by rw [zero, Nat.zero_mul]) fun le => ?_)
      exact Nat.mul_le_mul le large
    | infinite s =>
      have nonzero : n ≠ 0 := (f.one_pos.trans_le large).ne'
      show Apart 0 (if n = 0 then undefined else infinite (s != t))
      rw [if_neg nonzero]
      exact trivial
    | nan s payload => exact hx.elim
  | infinite t => cases finite
  | nan t payload => cases finite

/-- A quotient is as far from zero as the divisor lets it. -/
theorem Apart.div (hx : Apart j x) (finite : y.isFinite = true) (nonzero : y.toUnits.natAbs ≠ 0)
    (small : Nat.pow 2 k * y.toUnits.natAbs ≤ Nat.pow 2 j * f.one) : Apart k (x / y) := by
  cases y with
  | finite t n _ =>
    rw [toUnits, natAbs_signed] at nonzero small
    cases x with
    | finite s m _ =>
      show Apart k (if n = 0 then _ else round (s != t) (m * f.one) n)
      rw [if_neg nonzero]
      refine apart_round _ (Nat.pos_of_ne_zero nonzero)
        (hx.imp (fun zero => by rw [zero, Nat.zero_mul]) fun le => ?_)
      exact small.trans (Nat.mul_le_mul_right _ le)
    | infinite s => exact trivial
    | nan s payload => exact hx.elim
  | infinite t => cases finite
  | nan t payload => cases finite

/-! ### Hundredths -/

/-- What is left of a number in hundredths is zero or of more than a half of one. -/
theorem apart_toHundredth {x : Single} (isNumber : ∀ negative payload, x ≠ .nan negative payload) :
    Apart (Format.single.unitBits - 7) x.toHundredth := by
  have finite : (100 : Single).isFinite = true := by decide +kernel
  have units : (100 : Single).toUnits.natAbs = 100 * Format.single.one := by decide +kernel
  have counted : Apart 0 (x * 100) :=
    (apart_zero isNumber).mul finite (by rw [units]; decide +kernel)
  refine counted.roundHalfAway.div finite ?_ ?_
  · rw [units]
    decide +kernel
  · rw [units]
    decide +kernel

/-- So it counts as one hundredth at least. -/
theorem hundredths_pos {units : Nat} (apart : Nat.pow 2 (Format.single.unitBits - 7) ≤ units) :
    0 < hundredths .single units := by
  have one : Format.single.one = 128 * Nat.pow 2 (Format.single.unitBits - 7) := by decide +kernel
  have positive := Nat.two_pow_pos (Format.single.unitBits - 7)
  refine roundDiv_pos Format.single.one_pos ?_
  simp only [Nat.pow_eq] at *
  omega

end Binary

end SceneMarkup
