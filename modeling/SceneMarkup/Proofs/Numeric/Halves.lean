import SceneMarkup.Layout.Utility
import SceneMarkup.Proofs.Numeric.Hundredths

/-!
# Whole numbers and halves

A whole number or a half of moderate size has few enough bits that sums, differences and halves of
whole numbers are exact, and that hundredths of it are.

* `HasHalves`: a number that is a whole number of halves;
* `HasHalves.add`, `HasHalves.sub`, `Denotes.half`: what is computed from such numbers is exact;
* `halfText`, `HasHalves.compact`: how such a number is written;
* `HasHalves.roundsToZero`: it is not worth a rule only if it is zero.
-/

namespace SceneMarkup.Binary

/-- The units in a half. -/
def half : Nat := Nat.pow 2 148

theorem single_one : Format.single.one = 2 * half := by decide

/-- A number that is a whole number of halves. -/
def HasHalves (x : Single) (n : Int) : Prop := HasValue x (n * half)

variable {x y : Single} {m n : Int}

theorem holds_halves (few : n.natAbs ≤ Nat.pow 2 24) : Format.single.Holds (n * half).natAbs := by
  rw [Int.natAbs_mul, Int.natAbs_natCast]
  exact Format.holds_mul_pow few (by decide)

theorem Denotes.halves (hx : Denotes x n) : HasHalves x (2 * n) := by
  rw [Denotes, single_one] at hx
  rw [HasHalves]
  convert hx using 1
  push_cast
  ring

/-- Half of a whole number. -/
theorem Denotes.half (hx : Denotes x n) (few : n.natAbs ≤ Nat.pow 2 24) : HasHalves (x / 2) n := by
  have two : Denotes (2 : Single) (2 : Nat) := denotes_ofNat (by decide) (by decide)
  refine HasValue.div hx two (by decide) ?_ (holds_halves few)
  rw [single_one]
  push_cast
  ring

theorem HasHalves.add (hx : HasHalves x m) (hy : HasHalves y n)
    (few : (m + n).natAbs ≤ Nat.pow 2 24) : HasHalves (x + y) (m + n) := by
  have holds := holds_halves few
  rw [HasHalves, Int.add_mul] at *
  exact HasValue.add hx hy holds

theorem HasHalves.sub (hx : HasHalves x m) (hy : HasHalves y n)
    (few : (m - n).natAbs ≤ Nat.pow 2 24) : HasHalves (x - y) (m - n) := by
  have holds := holds_halves few
  rw [HasHalves, Int.sub_mul] at *
  exact HasValue.sub hx hy holds

/-! ### How it is written -/

/-- How a number of halves is written. -/
def halfText (n : Int) : String :=
  (if n < 0 then "-" else "") ++ toString (n.natAbs / 2) ++ if n % 2 = 0 then "" else ".5"

theorem hundredthText_halves (n : Int) : hundredthText (50 * n) = halfText n := by
  have sign : 50 * n < 0 ↔ n < 0 := by omega
  have whole : (50 * n).natAbs / 100 = n.natAbs / 2 := by omega
  rw [hundredthText, halfText, whole]
  simp only [sign]
  rcases Int.emod_two_eq_zero_or_one n with even | odd
  · rw [if_pos even, show (50 * n).natAbs % 100 = 0 by omega]
    rfl
  · rw [if_neg (show ¬ n % 2 = 0 by omega), show (50 * n).natAbs % 100 = 50 by omega]
    rfl

theorem HasHalves.hasHundredths (hx : HasHalves x n) : HasHundredths x (50 * n) := by
  refine ⟨hx.finite, ?_⟩
  rw [hx.toUnits, single_one]
  push_cast
  ring

/-- A number of halves is written as it is: `25 * n` still has few bits. -/
theorem HasHalves.compact (hx : HasHalves x n) (few : 25 * n.natAbs ≤ Nat.pow 2 24) :
    x.compact = halfText n := by
  have power : Nat.pow 2 24 = 16777216 := rfl
  rw [← hundredthText_halves]
  refine hx.hasHundredths.compact ?_ (by omega)
  have fewer : (50 * n * (Format.single.one : Int)).natAbs = 25 * n.natAbs * Nat.pow 2 150 := by
    rw [Int.natAbs_mul, Int.natAbs_mul, Int.natAbs_natCast,
      show Nat.pow 2 150 = 2 * Format.single.one by decide]
    show 50 * n.natAbs * _ = _
    ring
  rw [fewer]
  exact Format.holds_mul_pow few (by decide)

/-- The only number of halves whose nearest whole number is zero is zero: a half goes away from
it. -/
theorem HasHalves.roundsToZero (hx : HasHalves x n) (few : n.natAbs ≤ Nat.pow 2 24) :
    Layout.roundsToZero x = decide (n = 0) := by
  obtain ⟨finite, value⟩ := hx
  cases x with
  | finite negative units holds =>
    have value : signed negative units = n * half := value
    have size : units = n.natAbs * half := by
      rw [← natAbs_signed negative units, value, Int.natAbs_mul, Int.natAbs_natCast]
    have whole : (2 * units + Format.single.one) / (2 * Format.single.one) =
        (n.natAbs + 1) / 2 := by
      rw [size, single_one,
        show 2 * (n.natAbs * half) + 2 * half = (n.natAbs + 1) * (2 * half) by ring,
        Nat.mul_div_mul_right _ _ (by decide)]
    have rounded : Binary.roundHalfAway (.finite negative units holds : Single) =
        .finite negative ((n.natAbs + 1) / 2 * Format.single.one)
          (Format.holds_mul_one (by decide) (show _ ≤ Nat.pow 2 24 by omega)) := by
      show round negative ((2 * units + _) / (2 * _) * Format.single.one) 1 = _
      rw [whole, round_of_holds]
    have zero : (0 : Single) = .finite false (0 * Format.single.one)
        (Format.holds_mul_one (by decide) (Nat.zero_le _)) := by
      show ofNat 0 = _
      rw [ofNat, ofRatio, round_of_holds]
    rw [Layout.roundsToZero, rounded, zero, equals, compares]
    dsimp only [rank, signed]
    refine decide_eq_decide.2 ?_
    have pos := Format.single.one_pos
    rw [Nat.zero_mul, if_neg Bool.false_ne_true]
    change signed negative _ = 0 ↔ _
    rw [← Int.natAbs_eq_zero, natAbs_signed, Nat.mul_eq_zero]
    omega
  | infinite negative => cases finite
  | nan negative payload => cases finite

end SceneMarkup.Binary
