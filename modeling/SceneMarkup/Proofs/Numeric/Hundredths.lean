import SceneMarkup.Numeric.Hundredths
import SceneMarkup.Proofs.Numeric.Products

/-!
# Numbers with two places

A number whose exact value has two places is not changed by rounding it to hundredths, as long as
the format has its hundredths as a whole number.

* `HasHundredths`: a number and its exact value in hundredths;
* `HasHundredths.toHundredth`: which it keeps when it is rounded to hundredths;
* `IsDecimals`, `exists_places`: the decimals of some hundredths;
* `hundredthText`, `HasHundredths.compact`: how such a number is written.
-/

namespace SceneMarkup.Binary

/-- A finite number and its exact value, in hundredths. -/
structure HasHundredths (x : Single) (n : Int) : Prop where
  finite : x.isFinite = true
  toUnits : x.toUnits * 100 = n * Format.single.one

variable {x : Single} {n : Int}

/-- The magnitude of a finite number is one that its format has. -/
theorem holds_natAbs_toUnits {f : Format} {x : Binary f} (finite : x.isFinite = true) :
    f.Holds x.toUnits.natAbs := by
  cases x with
  | finite negative units holds => rwa [toUnits, natAbs_signed]
  | infinite negative => cases finite
  | nan negative payload => cases finite

/-- Counted in hundredths and back, such a number stays what it is. -/
theorem HasHundredths.toHundredth (hx : HasHundredths x n)
    (holds : Format.single.Holds (n * Format.single.one).natAbs) :
    HasHundredths x.toHundredth n := by
  have hundred : Denotes (100 : Single) (100 : Nat) := denotes_ofNat (by decide) (by decide)
  have own : HasValue x x.toUnits := ⟨hx.finite, rfl⟩
  have counted : Denotes (x * 100) n := by
    refine HasValue.mul own hundred ?_ holds
    rw [← hx.toUnits]
    push_cast
    ring
  have back : HasValue x.toHundredth x.toUnits := by
    refine HasValue.div counted.roundHalfAway hundred (by decide) ?_
      (holds_natAbs_toUnits hx.finite)
    rw [← hx.toUnits]
    push_cast
    ring
  exact ⟨back.finite, by rw [back.toUnits, hx.toUnits]⟩

/-! ### How they are written -/

/-- One or two decimals, the last of which is not a zero. -/
def IsDecimals (digits : List Char) : Prop :=
  (digits.length = 1 ∨ digits.length = 2) ∧ digits.all Char.isDigit = true ∧
    digits.getLast? ≠ some '0'

instance : DecidablePred IsDecimals := fun _ => inferInstanceAs (Decidable (_ ∧ _ ∧ _))

/-- Some hundredths are written as a point and decimals of the same value. -/
theorem exists_places {parts : Nat} (small : parts < 100) (nonzero : parts ≠ 0) :
    ∃ digits, (places parts).toList = '.' :: digits ∧ IsDecimals digits ∧
      Nat.ofDigitChars 10 digits 0 * 100 = parts * 10 ^ digits.length := by
  have each : ∀ parts < 100, parts ≠ 0 → (places parts).toList = '.' :: (places parts).toList.tail ∧
      IsDecimals (places parts).toList.tail ∧
        Nat.ofDigitChars 10 (places parts).toList.tail 0 * 100 =
          parts * 10 ^ (places parts).toList.tail.length := by decide +kernel
  exact ⟨_, each parts small nonzero⟩

/-- How a number of hundredths is written. -/
def hundredthText (n : Int) : String :=
  (if n < 0 then "-" else "") ++ toString (n.natAbs / 100) ++ places (n.natAbs % 100)

/-- The sign and the magnitude of a multiple of some step, other than zero. -/
theorem of_signed_eq_mul {negative : Bool} {m step : Nat} (value : signed negative m = n * step)
    (pos : 0 < step) (nonzero : m ≠ 0) : negative = decide (n < 0) ∧ m = n.natAbs * step := by
  have size : m = n.natAbs * step := by
    rw [← natAbs_signed negative m, value, Int.natAbs_mul, Int.natAbs_natCast]
  refine ⟨?_, size⟩
  have pos : (0 : Int) < step := Int.natCast_pos.2 pos
  cases negative with
  | false =>
    refine (decide_eq_false fun below => ?_).symm
    have negative : n * step < 0 := Int.mul_neg_of_neg_of_pos below pos
    have value : (m : Int) = n * step := value
    omega
  | true =>
    refine (decide_eq_true (Int.not_le.1 fun above => ?_)).symm
    have positive : 0 ≤ n * step := Int.mul_nonneg above (Int.le_of_lt pos)
    have value : -(m : Int) = n * step := value
    omega

/-- An integer other than zero is written as a sign and a magnitude. -/
theorem toString_signed (negative : Bool) {m : Nat} (nonzero : m ≠ 0) :
    toString (signed negative m) = (if negative then "-" else "") ++ toString m := by
  obtain ⟨k, rfl⟩ := Nat.exists_eq_succ_of_ne_zero nonzero
  cases negative with
  | true => rfl
  | false => exact String.empty_append.symm

/-- A moderate whole number is within the range of 64 bits. -/
theorem truncate_mul_one {negative : Bool} {m : Nat} (few : m < 9223372036854775808)
    {holds : Format.single.Holds (m * Format.single.one)} :
    truncate (-wholeBound) (wholeBound - 1)
      (.finite negative (m * Format.single.one) holds : Single) =
      signed negative m := by
  have size := natAbs_signed negative m
  rw [truncate, Nat.mul_div_cancel _ Format.single.one_pos,
    show wholeBound = 9223372036854775808 from rfl]
  omega

/-- A number of hundredths is written as it is. -/
theorem HasHundredths.compact (hx : HasHundredths x n)
    (holds : Format.single.Holds (n * Format.single.one).natAbs)
    (few : n.natAbs < 9223372036854775808) :
    x.compact = hundredthText n := by
  obtain ⟨finite, value⟩ := hx.toHundredth holds
  unfold Binary.compact
  generalize x.toHundredth = rounded at finite value
  cases rounded with
  | finite negative units held =>
    have value : signed negative (units * 100) = n * Format.single.one :=
      (signed_mul ..).trans value
    dsimp only
    split
    · next noUnits =>
      have zero : n = 0 := by
        have nothing : n * Format.single.one = 0 := by rw [← value, noUnits]; cases negative <;> rfl
        exact (Int.mul_eq_zero.1 nothing).resolve_right (by decide)
      rw [zero]
      rfl
    · next someUnits =>
      obtain ⟨rfl, size⟩ := of_signed_eq_mul value Format.single.one_pos (by omega)
      split
      · next whole =>
        obtain ⟨k, rfl⟩ := exists_eq_mul_left_of_dvd (Nat.dvd_of_mod_eq_zero (eq_of_beq whole))
        have count : n.natAbs = k * 100 := by
          refine Nat.eq_of_mul_eq_mul_right Format.single.one_pos ?_
          rw [← size, Nat.mul_right_comm]
        have nonzero : k ≠ 0 := by
          rintro rfl
          exact someUnits (Nat.zero_mul _)
        rw [truncate_mul_one (by omega), toString_signed _ nonzero, hundredthText, count,
          Nat.mul_div_cancel _ (by decide), Nat.mul_mod_left]
        simp only [decide_eq_true_eq]
        exact String.append_empty.symm
      · have count : hundredths .single units = n.natAbs := by
          rw [hundredths, size]
          exact roundDiv_mul _ Format.single.one_pos
        rw [count, hundredthText]
        simp only [decide_eq_true_eq]
  | infinite negative => cases finite
  | nan negative payload => cases finite

end SceneMarkup.Binary
