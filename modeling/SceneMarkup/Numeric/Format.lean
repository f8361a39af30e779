/-!
# Binary formats

The finite magnitudes of a binary floating-point format are whole numbers of *units*, the unit being
the smallest positive magnitude. A magnitude below `2 ^ precision` units is any whole number; above
that it has to leave as many low bits clear as it has bits too many.

* `Format`: the number of significant bits and the width of the exponent;
* `Format.Holds`: which whole numbers of units a format has;
* `roundDiv`: a quotient rounded to the nearest whole number, a tie to the even neighbour;
* `Format.nearest`: the magnitude nearest to a quotient, a tie to the even significand;
* `holds_nearest`: below the limit that magnitude belongs to the format, and
  `nearest_of_holds`: a magnitude of the format is nearest to itself.

Powers are written with `Nat.pow`, which is the same function whatever is imported beside this file.
-/

namespace SceneMarkup

/-- A quotient rounded to the nearest whole number; a tie goes to the even neighbour. -/
def roundDiv (num den : Nat) : Nat :=
  let quotient := num / den
  let rest := num % den
  if 2 * rest < den then quotient
  else if den < 2 * rest then quotient + 1
  else quotient + quotient % 2

theorem roundDiv_le (num den : Nat) : roundDiv num den ≤ num / den + 1 := by
  unfold roundDiv
  dsimp only
  split
  · omega
  · split <;> omega

theorem le_roundDiv (num den : Nat) : num / den ≤ roundDiv num den := by
  unfold roundDiv
  dsimp only
  split
  · omega
  · split <;> omega

/-- A whole quotient is left alone. -/
theorem roundDiv_mul {den : Nat} (quotient : Nat) (pos : 0 < den) :
    roundDiv (quotient * den) den = quotient := by
  unfold roundDiv
  simp [Nat.mul_div_cancel _ pos, pos]

/-- A binary format: its significant bits, and the bits of its exponent. -/
structure Format where
  precision : Nat
  exponentBits : Nat
  precision_pos : 0 < precision := by decide

namespace Format

/-- Numbers of 32 bits. -/
def single : Format := ⟨24, 8, by decide⟩

/-- Numbers of 64 bits. -/
def double : Format := ⟨53, 11, by decide⟩

variable (f : Format)

/-- The significant bits that an interchange code stores. -/
def fractionBits : Nat := f.precision - 1

/-- The number one is so many powers of two above the unit. -/
def unitBits : Nat := Nat.pow 2 (f.exponentBits - 1) - 2 + f.fractionBits

/-- The units in the number one. -/
def one : Nat := Nat.pow 2 f.unitBits

/-- The first power of two that is too large. -/
def limit : Nat := Nat.pow 2 (Nat.pow 2 (f.exponentBits - 1) + f.unitBits)

theorem one_pos : 0 < f.one := Nat.two_pow_pos _

theorem limit_pos : 0 < f.limit := Nat.two_pow_pos _

/-- The low bits that a magnitude of `n` units has to leave clear. -/
def shift (n : Nat) : Nat := n.log2 + 1 - f.precision

/-- The format has a magnitude of `n` units. -/
def Holds (n : Nat) : Prop := n < f.limit ∧ n % Nat.pow 2 (f.shift n) = 0

instance (n : Nat) : Decidable (f.Holds n) := inferInstanceAs (Decidable (_ ∧ _))

theorem holds_zero : f.Holds 0 := ⟨f.limit_pos, Nat.zero_mod _⟩

/-- The magnitude nearest to `num / den`, in units; a tie goes to the even significand. -/
def nearest (num den : Nat) : Nat :=
  let step := Nat.pow 2 (f.shift (num / den))
  roundDiv num (den * step) * step

theorem div_step_lt (n : Nat) : n / Nat.pow 2 (f.shift n) < Nat.pow 2 f.precision := by
  simp only [Nat.pow_eq]
  rw [Nat.div_lt_iff_lt_mul (Nat.two_pow_pos _), ← Nat.pow_add]
  refine Nat.lt_of_lt_of_le Nat.lt_log2_self (Nat.pow_le_pow_right (by decide) ?_)
  unfold shift
  omega

theorem log2_mul_pow {significand step : Nat} (positive : 0 < significand) :
    (significand * Nat.pow 2 step).log2 = significand.log2 + step := by
  simp only [Nat.pow_eq]
  rw [Nat.log2_eq_iff (Nat.ne_of_gt (Nat.mul_pos positive (Nat.two_pow_pos _))), Nat.pow_add,
    Nat.add_right_comm, Nat.pow_add]
  exact ⟨Nat.mul_le_mul_right _ (Nat.log2_self_le (by omega)),
    Nat.mul_lt_mul_of_pos_right Nat.lt_log2_self (Nat.two_pow_pos _)⟩

/-- A significand of at most `precision` bits, or the next power of two, leaves enough bits
clear. -/
theorem mod_shift_of_le {significand step : Nat} (small : significand ≤ Nat.pow 2 f.precision) :
    significand * Nat.pow 2 step % Nat.pow 2 (f.shift (significand * Nat.pow 2 step)) = 0 := by
  have pos := f.precision_pos
  rcases Nat.eq_zero_or_pos significand with rfl | positive
  · simp
  have log := @log2_mul_pow significand step positive
  rcases Nat.lt_or_eq_of_le small with small | rfl
  · have bits : significand.log2 < f.precision := (Nat.log2_lt (by omega)).2 small
    have le : f.shift (significand * Nat.pow 2 step) ≤ step := by unfold shift; omega
    exact Nat.mod_eq_zero_of_dvd (Nat.dvd_mul_left_of_dvd (Nat.pow_dvd_pow 2 le) _)
  · have le : f.shift (Nat.pow 2 f.precision * Nat.pow 2 step) ≤ f.precision + step := by
      unfold shift
      rw [log, Nat.pow_eq, Nat.log2_two_pow]
      omega
    simp only [Nat.pow_eq, ← Nat.pow_add] at le ⊢
    exact Nat.mod_eq_zero_of_dvd (Nat.pow_dvd_pow 2 le)

theorem mod_shift_nearest (num den : Nat) :
    f.nearest num den % Nat.pow 2 (f.shift (f.nearest num den)) = 0 := by
  refine f.mod_shift_of_le (Nat.le_trans (roundDiv_le _ _) ?_)
  rw [← Nat.div_div_eq_div_mul]
  exact f.div_step_lt (num / den)

theorem holds_nearest {num den : Nat} (small : f.nearest num den < f.limit) :
    f.Holds (f.nearest num den) :=
  ⟨small, f.mod_shift_nearest num den⟩

theorem nearest_of_holds {n : Nat} (holds : f.Holds n) : f.nearest n 1 = n := by
  unfold nearest
  dsimp only
  rw [Nat.div_one, Nat.one_mul]
  have whole : n / Nat.pow 2 (f.shift n) * Nat.pow 2 (f.shift n) = n :=
    Nat.div_mul_cancel (Nat.dvd_of_mod_eq_zero holds.2)
  have rounded := roundDiv_mul (n / Nat.pow 2 (f.shift n)) (Nat.two_pow_pos (f.shift n))
  simp only [Nat.pow_eq] at whole rounded ⊢
  rw [whole] at rounded
  rw [rounded, whole]

end Format

end SceneMarkup
