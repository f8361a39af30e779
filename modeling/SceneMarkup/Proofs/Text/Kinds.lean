import Mathlib.Data.List.Basic

/-!
# Texts of some characters only

* `IsOf`: a text of characters of a kind;
* `IsOf.append`, `isOf_intercalate`: texts that are put together;
* `isOf_nat`, `isOf_int`: numbers are digits, with a hyphen in front if they are negative;
* `forall_isAlphanum`: what holds of the letters and digits of the first block holds of all of them.
-/

namespace SceneMarkup.Text

/-- A text of characters of a kind. -/
def IsOf (kind : Char → Bool) (text : String) : Prop := ∀ c ∈ text.toList, kind c = true

instance (kind : Char → Bool) : DecidablePred (IsOf kind) := fun text =>
  List.decidableBAll (fun c => kind c = true) text.toList

variable {kind : Char → Bool} {a b : String}

theorem IsOf.append (ha : IsOf kind a) (hb : IsOf kind b) : IsOf kind (a ++ b) := by
  rw [IsOf, String.toList_append, List.forall_mem_append]
  exact ⟨ha, hb⟩

theorem IsOf.mono {kind' : Char → Bool} (h : IsOf kind a)
    (more : ∀ c, kind c = true → kind' c = true) :
    IsOf kind' a :=
  fun c mem => more c (h c mem)

theorem isOf_ofList {chars : List Char} :
    IsOf kind (String.ofList chars) ↔ ∀ c ∈ chars, kind c = true := by
  rw [IsOf, String.toList_ofList]

theorem isOf_empty : IsOf kind "" := fun _ mem => by cases mem

/-- Texts with a separator between each two. -/
theorem isOf_intercalate {separator : String} {texts : List String} (between : IsOf kind separator)
    (each : ∀ text ∈ texts, IsOf kind text) : IsOf kind (separator.intercalate texts) := by
  induction texts with
  | nil => exact isOf_empty
  | cons first rest ih =>
    obtain ⟨here, others⟩ := List.forall_mem_cons.1 each
    by_cases last : rest = []
    · rw [last, String.intercalate_singleton]
      exact here
    · rw [String.intercalate_cons_of_ne_nil last]
      exact (here.append between).append (ih others)

/-- A natural number is written with digits. -/
theorem isOf_nat (digits : ∀ c, c.isDigit = true → kind c = true) (n : Nat) :
    IsOf kind (toString n) := by
  intro c mem
  exact digits c (Nat.isDigit_of_mem_toDigits (by decide) (by decide) (String.toList_ofList ▸ mem))

theorem isOf_int (digits : ∀ c, c.isDigit = true → kind c = true) (hyphen : kind '-' = true)
    (n : Int) : IsOf kind (toString n) := by
  cases n with
  | ofNat n => exact isOf_nat digits n
  | negSucc n =>
    have sign : IsOf kind "-" := by
      rintro c mem
      rwa [List.mem_singleton.1 mem]
    exact sign.append (isOf_nat digits (n + 1))

/-! ### Letters and digits -/

theorem isAlphanum_of_isLower {c : Char} (lower : c.isLower = true) : c.isAlphanum = true :=
  Bool.or_eq_true_iff.2 (.inl (Bool.or_eq_true_iff.2 (.inr lower)))

theorem isAlphanum_of_isDigit {c : Char} (digit : c.isDigit = true) : c.isAlphanum = true :=
  Bool.or_eq_true_iff.2 (.inr digit)

theorem toNat_lt_of_isAlphanum {c : Char} (h : c.isAlphanum = true) : c.toNat < 128 := by
  have bound : c.val ≤ 'z'.val := by
    rcases Bool.or_eq_true_iff.1 h with letter | digit
    · rcases Bool.or_eq_true_iff.1 letter with upper | lower
      · exact UInt32.le_trans (of_decide_eq_true upper).2 (by decide)
      · exact of_decide_eq_true (Bool.and_eq_true_iff.1 lower).2
    · exact UInt32.le_trans (of_decide_eq_true (Bool.and_eq_true_iff.1 digit).2) (by decide)
  exact Nat.lt_of_le_of_lt (UInt32.le_iff_toNat_le.1 bound) (by decide)

/-- What holds of the letters and digits of the first block holds of all letters and digits. -/
theorem forall_isAlphanum {p : Char → Prop}
    (first : ∀ n < 128, (Char.ofNat n).isAlphanum = true → p (Char.ofNat n)) {c : Char}
    (h : c.isAlphanum = true) : p c := by
  have here := first c.toNat (toNat_lt_of_isAlphanum h)
  rw [Char.ofNat_toNat] at here
  exact here h

end SceneMarkup.Text
