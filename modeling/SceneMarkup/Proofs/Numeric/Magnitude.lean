import SceneMarkup.Numeric.Hundredths
import SceneMarkup.Proofs.Numeric.Halves

/-!
# How large results are

Rounding never goes past a power of two. So a bound on the arguments of an operation is a bound on
its result, and a result whose bound is in the range of the format is finite.

* `nearest_le_pow`: the magnitude nearest to a quotient is bounded by the powers of two that bound
  the quotient;
* `Within`: a finite number of a magnitude up to a power of two;
* `Within.add`, `Within.mul`, `Within.div`: bounds on the arithmetic;
* `UnsignedWithin`, `within_sqrt_add`: bounds on sums of squares and their roots;
* `within_clamp`, `Within.wrap`, `Within.toHundredth`: bounds on what is shown.
-/

namespace SceneMarkup

theorem roundDiv_le_of_le {num den bound : Nat} (pos : 0 < den) (le : num ≤ bound * den) :
    roundDiv num den ≤ bound := by
  rcases Nat.lt_or_eq_of_le le with less | rfl
  · have quotient : num / den < bound := (Nat.div_lt_iff_lt_mul pos).2 less
    exact (roundDiv_le num den).trans quotient
  · exact (roundDiv_mul bound pos).le

namespace Format

variable {f : Format} {k n : Nat}

theorem shift_le (small : n ≤ Nat.pow 2 k) : f.shift n ≤ k := by
  have pos := f.precision_pos
  have log : n.log2 ≤ k := by
    rcases Nat.eq_zero_or_pos n with rfl | positive
    · exact Nat.zero_le k
    · have less : n < 2 ^ (k + 1) :=
        small.trans_lt (Nat.pow_lt_pow_right (by decide) k.lt_succ_self)
      exact Nat.le_of_lt_succ ((Nat.log2_lt positive.ne').2 less)
  unfold shift
  omega

/-- Rounding never goes past a power of two. -/
theorem nearest_le_pow {num den : Nat} (pos : 0 < den) (le : num ≤ Nat.pow 2 k * den) :
    f.nearest num den ≤ Nat.pow 2 k := by
  have low : f.shift (num / den) ≤ k := shift_le (Nat.div_le_of_le_mul (by rwa [Nat.mul_comm]))
  have split :
      Nat.pow 2 k = Nat.pow 2 (k - f.shift (num / den)) * Nat.pow 2 (f.shift (num / den)) := by
    simp only [Nat.pow_eq, ← Nat.pow_add, Nat.sub_add_cancel low]
  rw [split] at le ⊢
  refine Nat.mul_le_mul_right _ (roundDiv_le_of_le (Nat.mul_pos pos (Nat.two_pow_pos _)) ?_)
  rwa [Nat.mul_assoc, Nat.mul_comm (Nat.pow 2 (f.shift (num / den)))] at le

end Format

namespace Binary

variable {f g : Format} {x y : Binary f} {i j k : Nat}

/-- A finite number of a magnitude up to a power of two. -/
def Within (k : Nat) (x : Binary f) : Prop :=
  x.isFinite = true ∧ x.toUnits.natAbs ≤ Nat.pow 2 k * f.one

instance (k : Nat) : DecidablePred (Within (f := f) k) :=
  fun _ => inferInstanceAs (Decidable (_ ∧ _))

theorem within_finite {negative : Bool} {units : Nat} {holds : f.Holds units} :
    Within k (.finite negative units holds) ↔ units ≤ Nat.pow 2 k * f.one := by
  rw [Within, toUnits, natAbs_signed]
  exact and_iff_right rfl

/-- A bounded number is a sign and a bounded magnitude. -/
theorem Within.exists_eq (hx : Within k x) :
    ∃ negative units holds, x = .finite negative units holds ∧ units ≤ Nat.pow 2 k * f.one := by
  cases x with
  | finite negative units holds => exact ⟨negative, units, holds, rfl, within_finite.1 hx⟩
  | infinite negative => cases hx.1
  | nan negative payload => cases hx.1

theorem Within.mono (hx : Within j x) (le : j ≤ k) : Within k x :=
  ⟨hx.1, hx.2.trans (Nat.mul_le_mul_right _ (Nat.pow_le_pow_right (by decide) le))⟩

/-- A rounded quotient has the bound of the exact one, if that is in the range of the format. -/
theorem exists_round_eq (fits : k < Nat.pow 2 (f.exponentBits - 1)) (negative : Bool)
    {num den : Nat} (pos : 0 < den) (le : num ≤ Nat.pow 2 k * f.one * den) :
    ∃ units holds, (round negative num den : Binary f) = .finite negative units holds ∧
      units ≤ Nat.pow 2 k * f.one := by
  have bound : f.nearest num den ≤ Nat.pow 2 k * f.one := by
    have power : Nat.pow 2 k * f.one = Nat.pow 2 (k + f.unitBits) := (Nat.pow_add ..).symm
    rw [power] at le ⊢
    exact Format.nearest_le_pow pos le
  have small : f.nearest num den < f.limit :=
    calc
      f.nearest num den ≤ Nat.pow 2 k * f.one := bound
      _ < Nat.pow 2 (Nat.pow 2 (f.exponentBits - 1)) * f.one :=
        Nat.mul_lt_mul_of_pos_right (Nat.pow_lt_pow_right (by decide) fits) f.one_pos
      _ = f.limit := (Nat.pow_add ..).symm
  exact ⟨_, _, dif_pos small, bound⟩

theorem within_round (fits : k < Nat.pow 2 (f.exponentBits - 1)) (negative : Bool) {num den : Nat}
    (pos : 0 < den) (le : num ≤ Nat.pow 2 k * f.one * den) :
    Within k (round negative num den : Binary f) := by
  obtain ⟨units, holds, same, small⟩ := exists_round_eq fits negative pos le
  rw [same]
  exact within_finite.2 small

theorem within_ofNat {n : Nat} (fits : n ≤ Nat.pow 2 k ∧ k < Nat.pow 2 (f.exponentBits - 1)) :
    Within k (ofNat n : Binary f) := by
  refine within_round fits.2 false Nat.one_pos ?_
  rw [Nat.mul_one]
  exact Nat.mul_le_mul_right _ fits.1

/-! ### Arithmetic -/

theorem Within.neg (hx : Within k x) : Within k (-x) := by
  obtain ⟨s, m, holds, rfl, small⟩ := hx.exists_eq
  exact within_finite.2 small

/-- A sum has at most one bit more than its terms. -/
theorem Within.add (hx : Within i x) (hy : Within j y)
    (fits : i < k ∧ j < k ∧ k < Nat.pow 2 (f.exponentBits - 1)) : Within k (x + y) := by
  obtain ⟨hi, hj, fits⟩ := fits
  obtain ⟨k, rfl⟩ := Nat.exists_eq_succ_of_ne_zero (Nat.ne_zero_of_lt hi)
  obtain ⟨s, m, holds, rfl, small⟩ := (hx.mono (Nat.le_of_lt_succ hi)).exists_eq
  obtain ⟨t, n, holds', rfl, small'⟩ := (hy.mono (Nat.le_of_lt_succ hj)).exists_eq
  have sum : (signed s m + signed t n).natAbs ≤ Nat.pow 2 (k + 1) * f.one := by
    have double : Nat.pow 2 (k + 1) * f.one = 2 * (Nat.pow 2 k * f.one) := by
      simp only [Nat.pow_eq]
      ring
    have first := natAbs_signed s m
    have second := natAbs_signed t n
    omega
  show Within (k + 1) (ofUnits (s && t) (signed s m + signed t n))
  unfold ofUnits
  split
  · exact within_finite.2 (Nat.zero_le _)
  · exact within_round fits _ Nat.one_pos (by rwa [Nat.mul_one])

theorem Within.sub (hx : Within i x) (hy : Within j y)
    (fits : i < k ∧ j < k ∧ k < Nat.pow 2 (f.exponentBits - 1)) : Within k (x - y) := by
  rw [sub_eq_add_neg_of_finite hx.1 hy.1]
  exact hx.add hy.neg fits

theorem Within.mul (hx : Within i x) (hy : Within j y)
    (fits : i + j ≤ k ∧ k < Nat.pow 2 (f.exponentBits - 1)) : Within k (x * y) := by
  obtain ⟨le, fits⟩ := fits
  obtain ⟨s, m, holds, rfl, small⟩ := hx.exists_eq
  obtain ⟨t, n, holds', rfl, small'⟩ := hy.exists_eq
  refine (within_round (Nat.lt_of_le_of_lt le fits) _ f.one_pos ?_).mono le
  calc
    m * n ≤ Nat.pow 2 i * f.one * (Nat.pow 2 j * f.one) := Nat.mul_le_mul small small'
    _ = Nat.pow 2 (i + j) * f.one * f.one := by
      simp only [Nat.pow_eq]
      ring

/-- A quotient is bounded if the divisor is large enough. -/
theorem Within.div (hx : Within j x) (finite : y.isFinite = true)
    (large : Nat.pow 2 j * f.one ≤ Nat.pow 2 k * y.toUnits.natAbs)
    (fits : k < Nat.pow 2 (f.exponentBits - 1)) : Within k (x / y) := by
  obtain ⟨s, m, holds, rfl, small⟩ := hx.exists_eq
  cases y with
  | finite t n holds' =>
    rw [toUnits, natAbs_signed] at large
    have nonzero : n ≠ 0 := by
      rintro rfl
      exact absurd large (Nat.not_le.2 (Nat.mul_pos (Nat.two_pow_pos j) f.one_pos))
    show Within k (if n = 0 then _ else round (s != t) (m * f.one) n)
    rw [if_neg nonzero]
    refine within_round fits _ (Nat.pos_of_ne_zero nonzero) ?_
    calc
      m * f.one ≤ Nat.pow 2 k * n * f.one := Nat.mul_le_mul_right _ (small.trans large)
      _ = Nat.pow 2 k * f.one * n := Nat.mul_right_comm ..
  | infinite t => cases finite
  | nan t payload => cases finite

/-- Dividing by one or more adds nothing. -/
theorem Within.div_of_one_le (hx : Within k x) (finite : y.isFinite = true)
    (large : f.one ≤ y.toUnits.natAbs) (fits : k < Nat.pow 2 (f.exponentBits - 1)) :
    Within k (x / y) :=
  hx.div finite (Nat.mul_le_mul_left _ large) fits

/-- A quotient is bounded if the divisor is not less, in magnitude, than a number that is large
enough. -/
theorem Within.div_of_not_lt {low : Binary f} (hx : Within j x) (finite : y.isFinite = true)
    (above : ¬ (y.abs < low)) (place : low.rank = some (low.toUnits.natAbs : Int))
    (large : Nat.pow 2 j * f.one ≤ Nat.pow 2 k * low.toUnits.natAbs)
    (fits : k < Nat.pow 2 (f.exponentBits - 1)) : Within k (x / y) := by
  have units : low.toUnits.natAbs ≤ y.toUnits.natAbs := by
    cases y with
    | finite s n holds =>
      rw [toUnits, natAbs_signed]
      refine Nat.not_lt.1 fun less => above (show compares _ _ _ = true from ?_)
      rw [compares, place]
      exact decide_eq_true (Int.ofNat_lt.2 less)
    | infinite s => cases finite
    | nan s payload => cases finite
  exact hx.div finite (large.trans (Nat.mul_le_mul_left _ units)) fits

/-! ### Square roots -/

/-- A number without a sign, of a magnitude up to a power of two. -/
def UnsignedWithin (k : Nat) (x : Binary f) : Prop :=
  ∃ units holds, x = .finite false units holds ∧ units ≤ Nat.pow 2 k * f.one

theorem Within.mul_self (fits : k + k < Nat.pow 2 (f.exponentBits - 1)) (hx : Within k x) :
    UnsignedWithin (k + k) (x * x) := by
  obtain ⟨s, m, holds, rfl, small⟩ := hx.exists_eq
  show UnsignedWithin (k + k) (round (s != s) (m * m) f.one)
  rw [bne_self_eq_false]
  refine exists_round_eq fits false f.one_pos ?_
  calc
    m * m ≤ Nat.pow 2 k * f.one * (Nat.pow 2 k * f.one) := Nat.mul_le_mul small small
    _ = Nat.pow 2 (k + k) * f.one * f.one := by
      simp only [Nat.pow_eq]
      ring

theorem UnsignedWithin.add (fits : k + 1 < Nat.pow 2 (f.exponentBits - 1)) (hx : UnsignedWithin k x)
    (hy : UnsignedWithin k y) : UnsignedWithin (k + 1) (x + y) := by
  obtain ⟨m, holds, rfl, small⟩ := hx
  obtain ⟨n, holds', rfl, small'⟩ := hy
  have sum : (m + n : Int).natAbs = m + n := Int.natAbs_natCast (m + n)
  show UnsignedWithin (k + 1) (ofUnits false (m + n))
  unfold ofUnits
  split
  · exact ⟨0, f.holds_zero, rfl, Nat.zero_le _⟩
  · rw [decide_eq_false (by omega), sum]
    refine exists_round_eq fits false Nat.one_pos ?_
    calc
      m + n ≤ 2 * (Nat.pow 2 k * f.one) := by omega
      _ = Nat.pow 2 (k + 1) * f.one * 1 := by
        simp only [Nat.pow_eq]
        ring

theorem floorSqrt_mul_self_le (n k : Nat) : floorSqrt n k * floorSqrt n k ≤ n := by
  induction k with
  | zero => exact Nat.zero_le n
  | succ k ih =>
    unfold floorSqrt
    dsimp only
    split
    · next fits => exact fits
    · exact ih

/-- A root has half as many bits. -/
theorem UnsignedWithin.sqrt (fits : k < Nat.pow 2 (f.exponentBits - 1))
    (hx : UnsignedWithin (k + k) x) :
    Within k x.sqrt := by
  obtain ⟨units, holds, rfl, small⟩ := hx
  have square : units * f.one ≤ Nat.pow 2 k * f.one * (Nat.pow 2 k * f.one) := by
    calc
      units * f.one ≤ Nat.pow 2 (k + k) * f.one * f.one := Nat.mul_le_mul_right _ small
      _ = Nat.pow 2 k * f.one * (Nat.pow 2 k * f.one) := by
        simp only [Nat.pow_eq]
        ring
  unfold Binary.sqrt
  dsimp only
  split
  · next zero => exact within_finite.2 (zero ▸ Nat.zero_le _)
  · rw [if_neg Bool.false_ne_true]
    refine within_round fits false (by decide) ?_
    generalize root : floorSqrt (units * f.one) ((units * f.one).log2 / 2 + 1) = r
    have below : r * r ≤ units * f.one := root ▸ floorSqrt_mul_self_le _ _
    -- An inexact root is less than the bound, which leaves room for the bit that says so.
    split
    · have le : r ≤ Nat.pow 2 k * f.one := Nat.mul_self_le_mul_self_iff.1 (below.trans square)
      omega
    · next inexact =>
      have less : r < Nat.pow 2 k * f.one :=
        Nat.mul_self_lt_mul_self_iff.1 ((Nat.lt_of_le_of_ne below inexact).trans_le square)
      omega

theorem UnsignedWithin.mono (hx : UnsignedWithin j x) (le : j ≤ k) : UnsignedWithin k x := by
  obtain ⟨units, holds, same, small⟩ := hx
  exact ⟨units, holds, same,
    small.trans (Nat.mul_le_mul_right _ (Nat.pow_le_pow_right (by decide) le))⟩

/-- The length of a vector has at most one bit more than its coordinates. -/
theorem within_sqrt_add (hx : Within j x) (hy : Within j y)
    (fits : j < k ∧ k + k < Nat.pow 2 (f.exponentBits - 1)) : Within k (x * x + y * y).sqrt := by
  have sum : UnsignedWithin (j + j + 1) (x * x + y * y) :=
    (hx.mul_self (by omega)).add (by omega) (hy.mul_self (by omega))
  exact (sum.mono (by omega)).sqrt (by omega)

/-! ### What is shown -/

theorem within_convert (hx : Within k x) (fits : k < Nat.pow 2 (g.exponentBits - 1)) :
    Within k (x.convert : Binary g) := by
  obtain ⟨s, m, holds, rfl, small⟩ := hx.exists_eq
  refine within_round fits s f.one_pos ?_
  calc
    m * g.one ≤ Nat.pow 2 k * f.one * g.one := Nat.mul_le_mul_right _ small
    _ = Nat.pow 2 k * g.one * f.one := Nat.mul_right_comm ..

theorem Within.roundHalfAway (hx : Within k x)
    (fits : k < Nat.pow 2 (f.exponentBits - 1)) : Within k x.roundHalfAway := by
  obtain ⟨s, m, holds, rfl, small⟩ := hx.exists_eq
  have whole : (2 * m + f.one) / (2 * f.one) ≤ Nat.pow 2 k := by
    refine Nat.le_of_lt_succ ((Nat.div_lt_iff_lt_mul (Nat.mul_pos (by decide) f.one_pos)).2 ?_)
    have pos := f.one_pos
    have distribute : (Nat.pow 2 k).succ * (2 * f.one) = 2 * (Nat.pow 2 k * f.one) + 2 * f.one := by
      rw [Nat.succ_mul, Nat.mul_left_comm]
    omega
  exact within_round fits s Nat.one_pos (by rw [Nat.mul_one]; exact Nat.mul_le_mul_right _ whole)

/-- What is kept between zero and one is at most one. -/
theorem within_clamp {x : Single} (finite : x.isFinite = true) : Within 0 (x.clamp 0 1) := by
  have zero : (0 : Single).rank = some 0 := by decide +kernel
  have one : (1 : Single).rank = some (Format.single.one : Int) := by decide +kernel
  unfold clamp
  split
  · exact within_ofNat (by decide)
  · next low =>
    split
    · exact within_ofNat (by decide)
    · next high =>
      cases x with
      | finite s m holds =>
        have least : ¬ (signed s m < 0) := fun less =>
          low (show compares _ _ _ = true by rw [compares, zero]; exact decide_eq_true less)
        have most : ¬ ((Format.single.one : Int) < signed s m) := fun less =>
          high (show compares _ _ _ = true by rw [compares, one]; exact decide_eq_true less)
        refine ⟨rfl, ?_⟩
        show (signed s m).natAbs ≤ 1 * Format.single.one
        omega
      | infinite s => cases finite
      | nan s payload => cases finite

/-- An angle in one turn. -/
theorem Within.wrap (hx : Within j x) {turn : Nat} (pos : 0 < turn)
    (fits : turn ≤ Nat.pow 2 i ∧ i < k ∧ k < Nat.pow 2 (f.exponentBits - 1)) :
    Within k (x.wrap turn) := by
  obtain ⟨small, hi, fits⟩ := fits
  obtain ⟨s, m, holds, rfl, -⟩ := hx.exists_eq
  have rest : Within i (round s (m % (turn * f.one)) 1 : Binary f) := by
    refine within_round (Nat.lt_trans hi fits) s Nat.one_pos ?_
    rw [Nat.mul_one]
    exact (Nat.mod_lt _ (Nat.mul_pos pos f.one_pos)).le.trans (Nat.mul_le_mul_right _ small)
  unfold Binary.wrap
  dsimp only
  split
  · exact rest.add (within_ofNat ⟨small, Nat.lt_trans hi fits⟩) ⟨hi, hi, fits⟩
  · exact rest.mono hi.le

/-- Half of a number is no larger. -/
theorem Within.halved {x : Single} (hx : Within k x)
    (fits : k < Nat.pow 2 (Format.single.exponentBits - 1)) : Within k (x / 2) :=
  hx.div_of_one_le (by decide +kernel) (by decide +kernel) fits

/-- Rounding to hundredths adds at most a bit. -/
theorem Within.toHundredth {x : Single} (hx : Within k x) (fits : k < 120) :
    Within (k + 1) x.toHundredth := by
  have hundred : Within 7 (100 : Single) := within_ofNat (by decide)
  have scaled : Within (k + 7) (x * 100) :=
    hx.mul hundred ⟨Nat.le_refl _, show k + 7 < 128 by omega⟩
  have exact : (100 : Single).toUnits.natAbs = 100 * Format.single.one := by decide +kernel
  refine (scaled.roundHalfAway (show k + 7 < 128 by omega)).div hundred.1 ?_
    (show k + 1 < 128 by omega)
  rw [exact, ← Nat.mul_assoc]
  refine Nat.mul_le_mul_right _ ?_
  simp only [Nat.pow_eq, Nat.pow_add]
  omega

end Binary

end SceneMarkup
