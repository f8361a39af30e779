import Mathlib.Tactic.Linarith
import SceneMarkup.Proofs.Css.Measures
import SceneMarkup.Proofs.Numeric.Apart
import SceneMarkup.Proofs.Numeric.ExactValues

/-!
# Numbers are written in one way

What is shown of a number is a decimal number without a character to spare. As a multiple of a
quarter of moderate size is shown as it is, two of these look alike only if they are equal.

* `IsNumeral`, `IsCanonical`: the decimal numbers that are shown;
* `isCanonical_hundredths`, `isCanonical_int`: a sign, a whole part and places; a whole number;
* `isCanonical_compact`: so every number is shown as one of them;
* `IsCanonical.ne_minus_zero`, `IsCanonical.isNumeric`, `IsCanonical.point`: what such a text is
  not;
* `IsQuarters`, `IsQuarters.exists_hundredths`: multiples of a quarter, which are shown as they are;
* `compact_canonical`: all of this together.
-/

namespace SceneMarkup.Css

open Binary (IsDecimals hundredthText places wholeBound)

/-! ### Decimal numbers -/

/-- A whole number without leading zeros. -/
structure IsNumeral (digits : List Char) : Prop where
  nonempty : digits ≠ []
  isDigit : ∀ c ∈ digits, c.isDigit = true
  leading : digits.head? = some '0' → digits = ['0']

/-- A hyphen, or nothing. -/
def IsSign (sign : List Char) : Prop := sign = [] ∨ sign = ['-']

/-- Zero; another whole number; or a whole part, a point and one or two decimals that do not end
with a zero. All but the zero may have a hyphen in front. -/
inductive IsCanonical : List Char → Prop where
  | zero : IsCanonical ['0']
  | whole {sign digits : List Char} (isSign : IsSign sign) (numeral : IsNumeral digits)
    (nonzero : digits ≠ ['0']) :
    IsCanonical (sign ++ digits)
  | decimal {sign digits decimals : List Char} (isSign : IsSign sign) (numeral : IsNumeral digits)
    (isDecimals : IsDecimals decimals) : IsCanonical (sign ++ digits ++ '.' :: decimals)

theorem isSign_sign (negative : Bool) : IsSign (if negative then "-" else "").toList := by
  cases negative with
  | false => exact .inl rfl
  | true => exact .inr rfl

/-! ### What is written -/

/-- The first digit of a number other than zero is no zero. -/
theorem head?_toDigits_ne {n : Nat} (pos : 0 < n) : (Nat.toDigits 10 n).head? ≠ some '0' := by
  induction n using Nat.strongRecOn with
  | ind n ih =>
    rw [Nat.toDigits_eq_if (by decide)]
    split
    · next small =>
      have each : ∀ n < 10, 0 < n → some n.digitChar ≠ some '0' := by decide
      exact each n small pos
    · next large =>
      have front := ih (n / 10) (Nat.div_lt_self pos (by decide)) (by omega)
      obtain ⟨c, rest, digits⟩ :=
        List.exists_cons_of_ne_nil (Nat.toDigits_ne_nil (b := 10) (n := n / 10))
      rw [digits] at front ⊢
      exact front

theorem isNumeral_toString (n : Nat) : IsNumeral (toString n).toList := by
  refine ⟨toList_toString_ne_nil n, isDigit_of_mem_toString, fun leading => ?_⟩
  rcases Nat.eq_zero_or_pos n with rfl | pos
  · rfl
  · rw [Nat.toString_eq_repr, Nat.toList_repr] at leading
    exact absurd leading (head?_toDigits_ne pos)

theorem toList_toString_ne {n : Nat} (nonzero : n ≠ 0) : (toString n).toList ≠ ['0'] := by
  intro zero
  have value := ofDigitChars_toString n
  rw [zero] at value
  exact nonzero value.symm

/-- A whole number other than zero. -/
theorem isCanonical_signed (negative : Bool) {n : Nat} (nonzero : n ≠ 0) :
    IsCanonical ((if negative then "-" else "") ++ toString n).toList := by
  rw [String.toList_append]
  exact .whole (isSign_sign negative) (isNumeral_toString n) (toList_toString_ne nonzero)

theorem isCanonical_int {n : Int} (nonzero : n ≠ 0) : IsCanonical (toString n).toList := by
  have magnitude := Int.natAbs_ne_zero.2 nonzero
  rw [← Binary.signed_natAbs n, Binary.toString_signed _ magnitude]
  exact isCanonical_signed _ magnitude

/-- A sign, a whole part and the places of some hundredths. -/
theorem isCanonical_hundredths (negative : Bool) {parts : Nat} (nonzero : parts ≠ 0) :
    IsCanonical ((if negative then "-" else "") ++ toString (parts / 100) ++
      places (parts % 100)).toList := by
  by_cases exact : parts % 100 = 0
  · have more : parts / 100 ≠ 0 := by omega
    rw [exact, show places 0 = "" from rfl, String.append_empty]
    exact isCanonical_signed negative more
  · obtain ⟨decimals, shape, isDecimals, -⟩ :=
      Binary.exists_places (Nat.mod_lt parts (by decide)) exact
    rw [String.toList_append, String.toList_append, shape]
    exact .decimal (isSign_sign negative) (isNumeral_toString _) isDecimals

/-- Every number is written as a decimal number. -/
theorem isCanonical_compact {x : Single}
    (isNumber : ∀ negative payload, x ≠ .nan negative payload) :
    IsCanonical x.compact.toList := by
  have apart := Binary.apart_toHundredth isNumber
  have bound : wholeBound = 9223372036854775808 := rfl
  unfold Binary.compact
  generalize x.toHundredth = rounded at apart
  cases rounded with
  | finite negative units holds =>
    dsimp only
    split
    · exact .zero
    · next nonzero =>
      split
      · next whole =>
        have more : units / Format.single.one ≠ 0 := by
          intro zero
          have split := Nat.div_add_mod units Format.single.one
          rw [zero, eq_of_beq whole] at split
          exact nonzero split.symm
        refine isCanonical_int ?_
        have size := Binary.natAbs_signed negative (units / Format.single.one)
        rw [Binary.truncate, bound]
        omega
      · have pos := Binary.hundredths_pos (apart.resolve_left nonzero)
        exact isCanonical_hundredths negative pos.ne'
  | infinite negative =>
    refine isCanonical_int ?_
    cases negative <;> decide
  | nan negative payload => exact apart.elim

/-! ### What is never written -/

theorem not_mem_of_isDigit {digits : List Char}
    (areDigits : ∀ c ∈ digits, c.isDigit = true) : '.' ∉ digits :=
  fun point => absurd (areDigits _ point) (by decide)

theorem IsSign.not_mem {sign : List Char} (isSign : IsSign sign) : '.' ∉ sign := by
  rcases isSign with rfl | rfl <;> decide

theorem IsSign.not_mem_append {sign digits : List Char} (isSign : IsSign sign)
    (numeral : IsNumeral digits) :
    '.' ∉ sign ++ digits :=
  List.not_mem_append isSign.not_mem (not_mem_of_isDigit numeral.isDigit)

variable {text : List Char}

theorem IsSign.isNumeric {sign : List Char} (isSign : IsSign sign) :
    ∀ c ∈ sign, isNumeric c = true := by
  rcases isSign with rfl | rfl
  · exact List.forall_mem_nil _
  · exact List.forall_mem_singleton.2 rfl

theorem isNumeric_of_forall_isDigit {digits : List Char}
    (areDigits : ∀ c ∈ digits, c.isDigit = true) :
    ∀ c ∈ digits, isNumeric c = true :=
  fun c mem => isNumeric_of_isDigit c (areDigits c mem)

/-- There are digits, a hyphen and a point only, so there is no exponent. -/
theorem IsCanonical.isNumeric (canonical : IsCanonical text) : ∀ c ∈ text, isNumeric c = true := by
  cases canonical with
  | zero => exact List.forall_mem_singleton.2 rfl
  | whole isSign numeral nonzero =>
    exact List.forall_mem_append.2 ⟨isSign.isNumeric, isNumeric_of_forall_isDigit numeral.isDigit⟩
  | decimal isSign numeral isDecimals =>
    have front :=
      List.forall_mem_append.2 ⟨isSign.isNumeric, isNumeric_of_forall_isDigit numeral.isDigit⟩
    have behind := isNumeric_of_forall_isDigit (List.all_eq_true.1 isDecimals.2.1)
    exact List.forall_mem_append.2 ⟨front, List.forall_mem_cons.2 ⟨by decide, behind⟩⟩

/-- The zero has no sign. -/
theorem IsCanonical.ne_minus_zero (canonical : IsCanonical text) : text ≠ ['-', '0'] := by
  cases canonical with
  | zero => decide
  | whole isSign numeral nonzero =>
    rcases isSign with rfl | rfl
    · rintro rfl
      exact absurd (numeral.isDigit '-' List.mem_cons_self) (by decide)
    · intro same
      exact nonzero (List.cons.inj same).2
  | decimal isSign numeral isDecimals =>
    intro same
    have point : '.' ∈ ['-', '0'] := same ▸ List.mem_append_right _ List.mem_cons_self
    exact absurd point (by decide)

/-- A point stands between two digits. -/
theorem IsCanonical.point (canonical : IsCanonical text) {before after : List Char}
    (split : text = before ++ '.' :: after) :
    before.getLast?.any Char.isDigit = true ∧ after.head?.any Char.isDigit = true := by
  have point : '.' ∈ text := split ▸ List.mem_append_right _ List.mem_cons_self
  cases canonical with
  | zero => exact absurd point (by decide)
  | whole isSign numeral nonzero => exact absurd point (isSign.not_mem_append numeral)
  | @decimal sign digits decimals isSign numeral isDecimals =>
    obtain ⟨length, areDecimals, -⟩ := isDecimals
    obtain ⟨rfl, -, rfl⟩ := (List.append_cons_inj_of_notMem (isSign.not_mem_append numeral)
      (not_mem_of_isDigit (List.all_eq_true.1 areDecimals))).1 split
    obtain ⟨front, last, rfl⟩ := (List.eq_nil_or_concat digits).resolve_left numeral.nonempty
    constructor
    · rw [List.concat_eq_append, ← List.append_assoc, List.getLast?_concat, Option.any_some]
      exact numeral.isDigit last (by simp)
    · cases decimals with
      | nil => simp at length
      | cons d others => exact (Bool.and_eq_true_iff.1 areDecimals).1

/-! ### Multiples of a quarter -/

/-- A multiple of a quarter of a magnitude up to `2 ^ 16`. -/
structure IsQuarters (x : Single) : Prop where
  finite : x.isFinite = true
  quarters : ∃ n : Int, x.value = n / 4
  moderate : |x.value| ≤ 65536

/-- The bound on the magnitude, as one on the number of quarters. -/
theorem abs_quarters_le_iff {n : Int} : |(n / 4 : ℚ)| ≤ 65536 ↔ n.natAbs ≤ 262144 := by
  have bounds : n.natAbs ≤ 262144 ↔ -262144 ≤ n ∧ n ≤ 262144 := by omega
  rw [bounds, abs_le, ← Int.cast_le (R := ℚ), ← Int.cast_le (R := ℚ)]
  push_cast
  constructor <;> rintro ⟨low, high⟩ <;> constructor <;> linarith

theorem isQuarters_of_units {x : Single} (n : Int) (finite : x.isFinite = true)
    (units : x.toUnits * 4 = n * Format.single.one) (few : n.natAbs ≤ 262144) : IsQuarters x := by
  have value : x.value = n / 4 := by
    rw [Binary.value, div_eq_div_iff (Binary.cast_one_ne_zero .single) (by norm_num)]
    exact_mod_cast units
  exact ⟨finite, ⟨n, value⟩, value ▸ abs_quarters_le_iff.2 few⟩

/-- It is shown in hundredths: there are few enough of them for the format to count. -/
theorem IsQuarters.exists_hundredths {x : Single} (hx : IsQuarters x) :
    ∃ n : Int, x.value = n / 100 ∧ x.compact = hundredthText n := by
  obtain ⟨finite, ⟨n, value⟩, moderate⟩ := hx
  have few := abs_quarters_le_iff.1 (value ▸ moderate)
  have counted : x.value = (25 * n : Int) / 100 := by
    rw [value]
    push_cast
    ring
  have power : Nat.pow 2 24 = 16777216 := rfl
  refine ⟨25 * n, counted, (Binary.hasHundredths_iff.2 ⟨finite, counted⟩).compact ?_ (by omega)⟩
  rw [Int.natAbs_mul, Int.natAbs_natCast]
  exact Format.holds_mul_one (by decide) (show _ ≤ Nat.pow 2 24 by omega)

/-- It reads back. -/
theorem IsQuarters.number?_compact {x : Single} (hx : IsQuarters x) :
    number? x.compact.toList = some x.value := by
  obtain ⟨n, value, shown⟩ := hx.exists_hundredths
  rw [shown, number?_hundredthText, value]

/-- Two of them are shown alike if they are equal, and only then. -/
theorem IsQuarters.compact_eq_iff {x y : Single} (hx : IsQuarters x) (hy : IsQuarters y) :
    x.compact = y.compact ↔ x.equals y = true := by
  rw [Binary.equals_iff_value_eq hx.finite hy.finite]
  constructor
  · intro alike
    have read := hx.number?_compact
    rw [alike, hy.number?_compact, Option.some.injEq] at read
    exact read.symm
  · intro same
    obtain ⟨m, value, shown⟩ := hx.exists_hundredths
    obtain ⟨n, value', shown'⟩ := hy.exists_hundredths
    have counted : (m : ℚ) = n := by
      rw [value, value'] at same
      exact (div_left_inj' (by norm_num)).1 same
    rw [shown, shown', Int.cast_inj.1 counted]

/-- **Numbers are shown as canonical decimal numbers**, never as a zero with a sign, with an
exponent or with a point that has no digit at one side. A multiple of a quarter of moderate size
reads back from what is shown, and so two of these are shown alike if and only if they are equal. -/
theorem compact_canonical :
    (∀ x : Single, (∀ negative payload, x ≠ .nan negative payload) →
      IsCanonical x.compact.toList ∧ x.compact ≠ "-0" ∧
        (∀ c ∈ x.compact.toList, isNumeric c = true) ∧
        ∀ before after, x.compact.toList = before ++ '.' :: after →
          before.getLast?.any Char.isDigit = true ∧ after.head?.any Char.isDigit = true) ∧
    (∀ x : Single, IsQuarters x → number? x.compact.toList = some x.value) ∧
    ∀ x y : Single, IsQuarters x → IsQuarters y → (x.compact = y.compact ↔ x.equals y = true) := by
  refine ⟨fun x isNumber => ?_, fun x hx => hx.number?_compact,
    fun x y hx hy => hx.compact_eq_iff hy⟩
  have canonical := isCanonical_compact isNumber
  refine ⟨canonical, fun zero => ?_, canonical.isNumeric, fun before after => canonical.point⟩
  exact canonical.ne_minus_zero (by rw [zero]; rfl)

/-- Such as twelve and a quarter, whose sign shows. -/
theorem compact_twelve_and_a_quarter :
    IsCanonical (-12.25 : Single).compact.toList ∧
      number? (-12.25 : Single).compact.toList = some (-12.25 : Single).value ∧
        ((-12.25 : Single).compact = (12.25 : Single).compact ↔
          (-12.25 : Single).equals 12.25 = true) := by
  have finite : (-12.25 : Single).isFinite = true := by decide +kernel
  have isNumber : ∀ negative payload, (-12.25 : Single) ≠ .nan negative payload := by
    intro negative payload same
    rw [same] at finite
    cases finite
  have below : IsQuarters (-12.25) :=
    isQuarters_of_units (-49) finite (by decide +kernel) (by decide)
  have above : IsQuarters 12.25 :=
    isQuarters_of_units 49 (by decide +kernel) (by decide +kernel) (by decide)
  exact ⟨(compact_canonical.1 _ isNumber).1, compact_canonical.2.1 _ below,
    compact_canonical.2.2 _ _ below above⟩

end SceneMarkup.Css
