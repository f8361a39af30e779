import SceneMarkup.Numeric.Arithmetic

/-!
# Exact results

An operation rounds its exact result once, so a result that the format has is exact.

* `Format.holds_mul_one`: a format has the whole numbers of at most as many bits as are significant;
* `HasValue`: a finite number and its exact value;
* `HasValue.add`, `HasValue.sub`: sums and differences that the format has are exact;
* `Denotes`: a number that is a whole number;
* `Denotes.sub`: differences of whole numbers are exact while they are small;
* `whole`, `denotes_whole`: the whole number that a number is;
* `eq_or_zeros_of_equals`: equal numbers are the same, but for the signs of zeros.
-/

namespace SceneMarkup

/-- A format has the whole numbers of at most as many bits as are significant. -/
theorem Format.holds_mul_one {f : Format} (wide : f.precision < Nat.pow 2 (f.exponentBits - 1))
    {n : Nat} (small : n ≤ Nat.pow 2 f.precision) : f.Holds (n * f.one) := by
  refine ⟨?_, f.mod_shift_of_le small⟩
  have limit : f.limit = Nat.pow 2 (Nat.pow 2 (f.exponentBits - 1)) * f.one :=
    Nat.pow_add 2 (Nat.pow 2 (f.exponentBits - 1)) f.unitBits
  rw [limit]
  exact Nat.mul_lt_mul_of_pos_right
    (Nat.lt_of_le_of_lt small (Nat.pow_lt_pow_right (by decide) wide))
    f.one_pos

namespace Binary

variable {f : Format} {x y : Binary f} {a b m n : Int}

/-! ### Values in units -/

/-- A finite number and its exact value, in units. -/
structure HasValue (x : Binary f) (a : Int) : Prop where
  finite : x.isFinite = true
  toUnits : x.toUnits = a

/-- An integer is its sign and its magnitude. -/
theorem signed_natAbs (a : Int) : signed (decide (a < 0)) a.natAbs = a := by
  by_cases negative : a < 0
  · rw [decide_eq_true negative, signed, if_pos rfl]
    omega
  · rw [decide_eq_false negative, signed, if_neg Bool.false_ne_true]
    omega

/-- A number of units that the format has is left alone. -/
theorem hasValue_ofUnits (zeroNegative : Bool) (holds : f.Holds a.natAbs) :
    HasValue (ofUnits zeroNegative a : Binary f) a := by
  unfold ofUnits
  split
  · next zero =>
    rw [zero]
    cases zeroNegative <;> exact ⟨rfl, rfl⟩
  · rw [round_of_holds _ holds]
    exact ⟨rfl, signed_natAbs a⟩

theorem HasValue.neg (hx : HasValue x a) : HasValue (-x) (-a) := by
  obtain ⟨finite, rfl⟩ := hx
  cases x with
  | finite negative units holds =>
    refine ⟨rfl, ?_⟩
    show signed (!negative) units = -signed negative units
    cases negative <;> simp [signed]
  | infinite negative => cases finite
  | nan negative payload => cases finite

/-- A sum that the format has is exact. -/
theorem HasValue.add (hx : HasValue x a) (hy : HasValue y b) (holds : f.Holds (a + b).natAbs) :
    HasValue (x + y) (a + b) := by
  obtain ⟨finite, rfl⟩ := hx
  obtain ⟨finite', rfl⟩ := hy
  cases x with
  | finite negative units held =>
    cases y with
    | finite negative' units' held' => exact hasValue_ofUnits (negative && negative') holds
    | infinite negative' => cases finite'
    | nan negative' payload' => cases finite'
  | infinite negative => cases finite
  | nan negative payload => cases finite

/-- A difference is a sum with the opposite number. -/
theorem sub_eq_add_neg_of_finite (hx : x.isFinite = true) (hy : y.isFinite = true) :
    x - y = x + -y := by
  cases x with
  | finite negative units held =>
    cases y with
    | finite negative' units' held' => rfl
    | infinite negative' => cases hy
    | nan negative' payload' => cases hy
  | infinite negative => cases hx
  | nan negative payload => cases hx

/-- A difference that the format has is exact. -/
theorem HasValue.sub (hx : HasValue x a) (hy : HasValue y b) (holds : f.Holds (a - b).natAbs) :
    HasValue (x - y) (a - b) := by
  rw [sub_eq_add_neg_of_finite hx.finite hy.finite]
  rw [Int.sub_eq_add_neg] at holds ⊢
  exact hx.add hy.neg holds

/-! ### Whole numbers -/

/-- A number that is a whole number. -/
def Denotes (x : Binary f) (n : Int) : Prop := HasValue x (n * f.one)

/-- A difference of whole numbers is exact if it has at most as many bits as are significant. -/
theorem Denotes.sub (wide : f.precision < Nat.pow 2 (f.exponentBits - 1)) (hx : Denotes x m)
    (hy : Denotes y n) (small : (m - n).natAbs ≤ Nat.pow 2 f.precision) :
    Denotes (x - y) (m - n) := by
  have holds : f.Holds ((m - n) * f.one).natAbs := by
    rw [Int.natAbs_mul, Int.natAbs_natCast]
    exact Format.holds_mul_one wide small
  rw [Int.sub_mul] at holds
  rw [Denotes, Int.sub_mul]
  exact HasValue.sub hx hy holds

theorem denotes_ofNat (wide : f.precision < Nat.pow 2 (f.exponentBits - 1)) {n : Nat}
    (small : n ≤ Nat.pow 2 f.precision) : Denotes (ofNat n : Binary f) n := by
  show HasValue (round false (n * f.one) 1 : Binary f) _
  rw [round_of_holds _ (Format.holds_mul_one wide small)]
  exact ⟨rfl, Int.natCast_mul n f.one⟩

/-- The whole number that a finite number without a fraction is. -/
def whole : Binary f → Int
  | .finite negative units _ => signed negative (units / f.one)
  | .infinite _ | .nan .. => 0

theorem denotes_whole (finite : x.isFinite = true) (noFraction : x.isWhole = true) :
    Denotes x (whole x) := by
  cases x with
  | finite negative units holds =>
    refine ⟨rfl, ?_⟩
    have split : units / f.one * f.one = units :=
      Nat.div_mul_cancel (Nat.dvd_of_mod_eq_zero (eq_of_beq noFraction))
    show signed negative units = signed negative (units / f.one) * f.one
    cases negative with
    | false =>
      show (units : Int) = (units / f.one : Nat) * (f.one : Int)
      rw [← Int.natCast_mul, split]
    | true =>
      show -(units : Int) = -(units / f.one : Nat) * (f.one : Int)
      rw [Int.neg_mul, ← Int.natCast_mul, split]
  | infinite negative => cases finite
  | nan negative payload => cases finite

/-! ### Equal numbers -/

theorem of_signed_eq_signed {s t : Bool} {m n : Nat} (same : signed s m = signed t n) :
    m = n ∧ (s = t ∨ m = 0) := by
  unfold signed at same
  cases s <;> cases t <;> simp at same ⊢ <;> omega

theorem equals_iff : x.equals y = true ↔ ∃ a, x.rank = some a ∧ y.rank = some a := by
  unfold equals compares
  cases x.rank with
  | none => simp
  | some a => cases y.rank <;> simp [eq_comm]

/-- Equal numbers are equal to the same numbers. -/
theorem equals_congr (same : x.equals y = true) (z : Binary f) : x.equals z = y.equals z := by
  obtain ⟨a, here, there⟩ := equals_iff.1 same
  rw [equals, compares, here, equals, compares, there]

/-- Equal numbers are the same, but for the signs of zeros. -/
theorem eq_or_zeros_of_equals (same : x.equals y = true) :
    x = y ∨ ∃ s t, x = zero s ∧ y = zero t := by
  obtain ⟨a, here, there⟩ := equals_iff.1 same
  have ranks : x.rank = y.rank := here.trans there.symm
  cases x with
  | nan s p => cases here
  | infinite s =>
    cases y with
    | nan t p => cases there
    | infinite t =>
      obtain ⟨-, rfl | zero⟩ := of_signed_eq_signed (Option.some.inj ranks)
      · exact .inl rfl
      · exact absurd zero (Nat.ne_of_gt f.limit_pos)
    | finite t n holds =>
      obtain ⟨large, -⟩ := of_signed_eq_signed (Option.some.inj ranks)
      exact absurd large.symm (Nat.ne_of_lt holds.1)
  | finite s m holds =>
    cases y with
    | nan t p => cases there
    | infinite t =>
      obtain ⟨large, -⟩ := of_signed_eq_signed (Option.some.inj ranks)
      exact absurd large (Nat.ne_of_lt holds.1)
    | finite t n holds' =>
      obtain ⟨rfl, rfl | rfl⟩ := of_signed_eq_signed (Option.some.inj ranks)
      · exact .inl rfl
      · exact .inr ⟨s, t, rfl, rfl⟩

end Binary

end SceneMarkup
