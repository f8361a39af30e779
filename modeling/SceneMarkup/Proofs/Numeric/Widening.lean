import SceneMarkup.Proofs.Numeric.Exact

/-!
# Numbers in a wider format

A number of a format is one of any wider format too, so nothing is lost on the way there and back.

* `Format.Within`: a format with at most the precision and the range of another;
* `Format.nearest_mul`: units that are counted in finer ones are rounded as they were;
* `Format.Within.holds`: the wider format has every magnitude of the narrower one;
* `convert_convert`: a finite number comes back from a wider format unchanged;
* `ofInt_of_denotes_convert`: and so does a whole number that is counted there.
-/

namespace SceneMarkup

theorem roundDiv_mul_mul {den scale : Nat} (num : Nat) (pos : 0 < scale) :
    roundDiv (num * scale) (den * scale) = roundDiv num den := by
  have below : 2 * (num % den * scale) < den * scale ↔ 2 * (num % den) < den := by
    rw [← Nat.mul_assoc, Nat.mul_lt_mul_right pos]
  have above : den * scale < 2 * (num % den * scale) ↔ den < 2 * (num % den) := by
    rw [← Nat.mul_assoc, Nat.mul_lt_mul_right pos]
  unfold roundDiv
  simp only [Nat.mul_div_mul_right _ _ pos, Nat.mul_mod_mul_right, below, above]

namespace Format

/-- Units that are counted in finer ones are rounded as they were. -/
theorem nearest_mul (f : Format) (n : Nat) {scale : Nat} (pos : 0 < scale) :
    f.nearest (n * scale) scale = f.nearest n 1 := by
  unfold nearest
  dsimp only
  rw [Nat.mul_div_cancel n pos, Nat.div_one, Nat.one_mul, Nat.mul_comm scale,
    roundDiv_mul_mul n pos]

/-- A format with at most the precision and the range of another. -/
structure Within (f g : Format) : Prop where
  precision : f.precision ≤ g.precision
  exponentBits : f.exponentBits ≤ g.exponentBits

namespace Within

variable {f g : Format}

/-- How many powers of two the unit of the wider format is finer. -/
def finer (f g : Format) : Nat := g.unitBits - f.unitBits

theorem unitBits (within : f.Within g) : g.unitBits = finer f g + f.unitBits := by
  have power : Nat.pow 2 (f.exponentBits - 1) ≤ Nat.pow 2 (g.exponentBits - 1) :=
    Nat.pow_le_pow_right (by decide) (Nat.sub_le_sub_right within.exponentBits 1)
  have le : f.unitBits ≤ g.unitBits :=
    Nat.add_le_add (Nat.sub_le_sub_right power 2) (Nat.sub_le_sub_right within.precision 1)
  exact (Nat.sub_add_cancel le).symm

theorem one (within : f.Within g) : g.one = Nat.pow 2 (finer f g) * f.one := by
  rw [Format.one, within.unitBits]
  exact Nat.pow_add ..

theorem limit (within : f.Within g) : f.limit * Nat.pow 2 (finer f g) ≤ g.limit := by
  have power : Nat.pow 2 (f.exponentBits - 1) ≤ Nat.pow 2 (g.exponentBits - 1) :=
    Nat.pow_le_pow_right (by decide) (Nat.sub_le_sub_right within.exponentBits 1)
  have whole : f.limit * Nat.pow 2 (finer f g) =
      Nat.pow 2 (Nat.pow 2 (f.exponentBits - 1) + f.unitBits + finer f g) := (Nat.pow_add ..).symm
  rw [whole, Format.limit, within.unitBits]
  exact Nat.pow_le_pow_right (by decide) (by omega)

/-- The wider format has every magnitude of the narrower one, in finer units. -/
theorem holds (within : f.Within g) {n : Nat} (holds : f.Holds n) :
    g.Holds (n * Nat.pow 2 (finer f g)) := by
  obtain ⟨small, clear⟩ := holds
  have significand : n / Nat.pow 2 (f.shift n) ≤ Nat.pow 2 g.precision :=
    Nat.le_trans (Nat.le_of_lt (f.div_step_lt n))
      (Nat.pow_le_pow_right (by decide) within.precision)
  have whole : n / Nat.pow 2 (f.shift n) * Nat.pow 2 (f.shift n + finer f g) =
      n * Nat.pow 2 (finer f g) := by
    have split : Nat.pow 2 (f.shift n + finer f g) =
        Nat.pow 2 (f.shift n) * Nat.pow 2 (finer f g) :=
      Nat.pow_add ..
    rw [split, ← Nat.mul_assoc, Nat.div_mul_cancel (Nat.dvd_of_mod_eq_zero clear)]
  refine ⟨Nat.lt_of_lt_of_le (Nat.mul_lt_mul_of_pos_right small (Nat.two_pow_pos _)) within.limit,
    ?_⟩
  rw [← whole]
  exact g.mod_shift_of_le significand

end Within

end Format

namespace Binary

variable {f g : Format}

theorem round_mul (negative : Bool) {n scale : Nat} (pos : 0 < scale) (holds : f.Holds n) :
    round negative (n * scale) scale = .finite negative n holds := by
  rw [← round_of_holds negative holds]
  unfold round
  simp only [f.nearest_mul n pos]

/-- A finite number in a wider format. -/
theorem convert_finite (within : f.Within g) (negative : Bool) {n : Nat} (holds : f.Holds n) :
    (finite negative n holds : Binary f).convert =
      (finite negative (n * Nat.pow 2 (Format.Within.finer f g))
        (within.holds holds) : Binary g) := by
  show round negative (n * g.one) f.one = _
  rw [within.one, ← Nat.mul_assoc, round_mul negative f.one_pos (within.holds holds)]

/-- A finite number comes back from a wider format unchanged. -/
theorem convert_convert (within : f.Within g) {x : Binary f} (finite : x.isFinite = true) :
    ((x.convert : Binary g).convert : Binary f) = x := by
  cases x with
  | finite negative units holds =>
    rw [convert_finite within]
    show round negative (units * Nat.pow 2 _ * f.one) g.one = _
    rw [Nat.mul_assoc, ← within.one, round_mul negative g.one_pos holds]
  | infinite negative => cases finite
  | nan negative payload => cases finite

theorem signed_mul (negative : Bool) (n scale : Nat) :
    signed negative (n * scale) = signed negative n * scale := by
  cases negative with
  | false => exact Int.natCast_mul n scale
  | true => exact (congrArg Neg.neg (Int.natCast_mul n scale)).trans (Int.neg_mul ..).symm

theorem ofInt_signed {negative : Bool} {n units : Nat} (whole : n * f.one = units)
    (holds : f.Holds units) (positive : negative = true → units ≠ 0) :
    ofInt (signed negative n) = .finite negative units holds := by
  subst whole
  have sign : decide (signed negative n < 0) = negative := by
    cases negative with
    | false => simp [signed]
    | true =>
      have nonzero : n ≠ 0 := fun zero => positive rfl (by rw [zero, Nat.zero_mul])
      simp [signed]
      omega
  have size : (signed negative n).natAbs = n := by cases negative <;> simp [signed]
  rw [ofInt, sign, size, round_of_holds negative holds]

/-- A whole number that is counted in a wider format, and is not the negative zero, is the number
nearest to what is counted. -/
theorem ofInt_of_denotes_convert (within : f.Within g) {x : Binary f} {n : Int}
    (denotes : Denotes (x.convert : Binary g) n) (nonzero : (x.convert : Binary g) ≠ zero true) :
    ofInt n = x := by
  obtain ⟨finite, value⟩ := denotes
  cases x with
  | finite negative units holds =>
    rw [convert_finite within] at value nonzero
    -- The finer units cancel.
    have counted : signed negative units = n * f.one := by
      have scaled : signed negative units * (Nat.pow 2 (Format.Within.finer f g) : Int) =
          n * f.one * (Nat.pow 2 (Format.Within.finer f g) : Int) := by
        rw [Int.mul_assoc, Int.mul_comm (f.one : Int), ← Int.natCast_mul, ← within.one, ← value,
          ← signed_mul]
        rfl
      have pos := Nat.two_pow_pos (Format.Within.finer f g)
      exact Int.eq_of_mul_eq_mul_right (Int.natCast_ne_zero.2 (Nat.ne_of_gt pos)) scaled
    have whole : n.natAbs * f.one = units := by
      have size := congrArg Int.natAbs counted
      rw [Int.natAbs_mul, Int.natAbs_natCast] at size
      rw [← size]
      cases negative <;> simp [signed]
    have sign : n = signed negative n.natAbs := by
      rw [← whole, signed_mul] at counted
      exact Int.eq_of_mul_eq_mul_right (Int.natCast_ne_zero.2 (Nat.ne_of_gt f.one_pos)) counted.symm
    rw [sign]
    refine ofInt_signed whole holds ?_
    rintro rfl rfl
    exact nonzero (by simp [zero])
  | infinite negative => cases finite
  | nan negative payload => cases finite

end Binary

end SceneMarkup
