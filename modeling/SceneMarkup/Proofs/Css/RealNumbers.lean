import Mathlib.Data.Nat.Digits.Defs
import SceneMarkup.Proofs.Css.Cascade
import SceneMarkup.Proofs.Css.Values
import SceneMarkup.Proofs.Numeric.Magnitude
import SceneMarkup.Proofs.Text.Pieces

/-!
# Values that show real numbers

What is no number is written with an `N`. A number past the range of whole numbers of 64 bits is
written as a bound of that range, which has nineteen digits.

* `IsReal`: a text without an `N`, and without so many digits in a row;
* `isFinite_of_isReal_compact`: a number that is written so is finite;
* `IsMark`, `IsReal.append_mark`, `isReal_intercalate`: texts that are put together with marks
  between them;
* `Within.isReal_compact`, `Within.isReal_fixed`: numbers of bounded magnitude are written so;
* `AllReal`: declarations of such values;
* `Declaration.ShowsReals`, `AllShowReals`: the same, but for names of fonts and for stacking
  orders.
-/

namespace SceneMarkup

open Text (IsOf isOf_nat)

/-- The runs of digits of a text, those included that are empty because two other characters
meet. -/
def digitRuns (text : String) : List (List Char) := Text.pieces (fun c => !c.isDigit) text.toList

/-- A text that shows real numbers only: it has no `N`, and fewer digits in a row than the bounds
that stand for numbers past them. -/
def IsReal (text : String) : Prop := IsOf (· != 'N') text ∧ ∀ run ∈ digitRuns text, run.length < 19

instance : DecidablePred IsReal := fun text =>
  inferInstanceAs (Decidable (IsOf (· != 'N') text ∧ ∀ run ∈ digitRuns text, run.length < 19))

/-- A number whose hundredths are infinite or undefined is not written as a real number. -/
theorem isFinite_of_isReal_compact {x : Single} (real : IsReal x.compact) :
    x.toHundredth.isFinite = true := by
  unfold Binary.compact at real
  generalize x.toHundredth = rounded at real
  cases rounded with
  | finite negative units holds => rfl
  | infinite negative =>
    have bounds : ¬ IsReal "9223372036854775807" ∧ ¬ IsReal "-9223372036854775808" := by decide
    cases negative with
    | false => exact absurd real bounds.1
    | true => exact absurd real bounds.2
  | nan negative payload =>
    have name : ¬ IsReal "NaN" := by decide
    exact absurd real name

/-! ### Texts that are put together -/

/-- A text of real numbers that begins and ends with other characters than digits. -/
def IsMark (mark : String) : Prop :=
  IsReal mark ∧ mark.toList.head?.any (fun c => !c.isDigit) = true ∧
    mark.toList.getLast?.any (fun c => !c.isDigit) = true

instance : DecidablePred IsMark := fun _ => inferInstanceAs (Decidable (_ ∧ _))

variable {a b mark : String}

theorem mem_digitRuns_append_of_begins {run : List Char}
    (begins : b.toList.head?.any (fun c => !c.isDigit) = true) (mem : run ∈ digitRuns (a ++ b)) :
    run ∈ digitRuns a ∨ run ∈ digitRuns b := by
  cases shape : b.toList with
  | nil => simp [shape] at begins
  | cons c rest =>
    rw [shape, List.head?_cons, Option.any_some] at begins
    have alone : Text.pieces (fun c => !c.isDigit) (c :: rest) =
        [[]] ++ Text.pieces (fun c => !c.isDigit) rest := Text.pieces_append_cons begins [] rest
    rw [digitRuns, String.toList_append, shape, Text.pieces_append_cons begins,
      List.mem_append] at mem
    rw [digitRuns, digitRuns, shape, alone, List.mem_append]
    exact mem.imp_right .inr

theorem mem_digitRuns_append_of_ends {run : List Char}
    (ends : a.toList.getLast?.any (fun c => !c.isDigit) = true) (mem : run ∈ digitRuns (a ++ b)) :
    run ∈ digitRuns a ∨ run ∈ digitRuns b := by
  rcases a.toList.eq_nil_or_concat with shape | ⟨front, c, shape⟩
  · simp [shape] at ends
  · rw [shape, List.concat_eq_append, List.getLast?_concat, Option.any_some] at ends
    rw [List.concat_eq_append] at shape
    rw [digitRuns, String.toList_append, shape, List.append_assoc, List.singleton_append,
      Text.pieces_append_cons ends, List.mem_append] at mem
    rw [digitRuns, digitRuns, shape, Text.pieces_append_cons ends, List.mem_append]
    exact mem.imp_left .inl

theorem IsReal.append_mark (ha : IsReal a) (isMark : IsMark mark) : IsReal (a ++ mark) :=
  ⟨ha.1.append isMark.1.1, fun run mem =>
    (mem_digitRuns_append_of_begins isMark.2.1 mem).elim (ha.2 run) (isMark.1.2 run)⟩

theorem IsMark.append (isMark : IsMark mark) (hb : IsReal b) : IsReal (mark ++ b) :=
  ⟨isMark.1.1.append hb.1, fun run mem =>
    (mem_digitRuns_append_of_ends isMark.2.2 mem).elim (isMark.1.2 run) (hb.2 run)⟩

/-- Texts with a mark between them. -/
theorem IsReal.join (ha : IsReal a) (isMark : IsMark mark) (hb : IsReal b) :
    IsReal (a ++ mark ++ b) := by
  have front := ha.append_mark isMark
  refine ⟨front.1.append hb.1, fun run mem =>
    (mem_digitRuns_append_of_ends ?_ mem).elim (front.2 run) (hb.2 run)⟩
  obtain ⟨c, last, other⟩ := (Option.any_eq_true _ _).1 isMark.2.2
  rw [String.toList_append, List.getLast?_append, last, Option.some_or, Option.any_some]
  exact other

theorem isReal_intercalate {separator : String} (isMark : IsMark separator) {texts : List String}
    (each : ∀ text ∈ texts, IsReal text) : IsReal (separator.intercalate texts) := by
  induction texts with
  | nil =>
    have empty : IsReal "" := by decide
    exact empty
  | cons first rest ih =>
    obtain ⟨here, others⟩ := List.forall_mem_cons.1 each
    by_cases last : rest = []
    · rw [last, String.intercalate_singleton]
      exact here
    · rw [String.intercalate_cons_of_ne_nil last]
      exact here.join isMark (ih others)

/-! ### Numbers -/

/-- A short text has no long runs. -/
theorem isReal_of_length {text : String} (plain : IsOf (· != 'N') text)
    (short : text.toList.length < 19) :
    IsReal text :=
  ⟨plain, fun _ mem => (Text.length_le_of_mem_pieces mem).trans_lt short⟩

theorem length_toString_le {n places : Nat} (pos : 0 < places) (small : n < 10 ^ places) :
    (toString n).toList.length ≤ places := by
  rw [Nat.toString_eq_repr, Nat.toList_repr]
  exact Nat.toDigits_length 10 n places pos small

theorem ne_of_isDigit (c : Char) (digit : c.isDigit = true) : (c != 'N') = true := by
  rw [bne_iff_ne]
  rintro rfl
  exact absurd digit (by decide)

theorem isReal_nat {n : Nat} (small : n < 10 ^ 18) : IsReal (toString n) :=
  isReal_of_length (isOf_nat ne_of_isDigit n)
    (Nat.lt_succ_of_le (length_toString_le (by decide) small))

theorem isReal_int {n : Int} (small : n.natAbs < 10 ^ 18) : IsReal (toString n) := by
  cases n with
  | ofNat n => exact isReal_nat small
  | negSucc n =>
    have hyphen : IsMark "-" := by decide
    exact hyphen.append (isReal_nat small)

namespace Binary

theorem isReal_signed (negative : Bool) {n : Nat} (small : n < 10 ^ 18) :
    IsReal ((if negative then "-" else "") ++ toString n) := by
  cases negative with
  | false => exact isReal_nat small
  | true =>
    have hyphen : IsMark "-" := by decide
    exact hyphen.append (isReal_nat small)

theorem isReal_twoDigits {n : Nat} (small : n < 100) : IsReal (twoDigits n) := by
  unfold twoDigits
  split
  · next single =>
    have plain : IsOf (· != 'N') ("0" ++ toString n) :=
      .append (by decide) (isOf_nat ne_of_isDigit n)
    refine isReal_of_length plain ?_
    have length : (toString n).toList.length ≤ 1 := length_toString_le (by decide) single
    rw [String.toList_append, List.length_append]
    exact Nat.lt_of_le_of_lt (Nat.add_le_add_left length _) (by decide)
  · exact isReal_nat (by omega)

theorem isReal_append_places {a : String} (ha : IsReal a) {parts : Nat} (few : parts < 100) :
    IsReal (a ++ places parts) := by
  have point : IsMark "." := by decide
  unfold places
  split
  · rwa [String.append_empty]
  · split
    · rw [← String.append_assoc]
      exact ha.join point (isReal_nat (by omega))
    · rw [← String.append_assoc]
      exact ha.join point (isReal_twoDigits few)

/-- The hundredths of a bounded magnitude. -/
theorem hundredths_le {f : Format} {units k : Nat} (small : units ≤ Nat.pow 2 k * f.one) :
    hundredths f units ≤ Nat.pow 2 k * 100 := by
  refine roundDiv_le_of_le f.one_pos ?_
  rw [Nat.mul_right_comm]
  exact Nat.mul_le_mul_right _ small

variable {x : Single} {k : Nat}

/-- A number of bounded magnitude with two places. -/
theorem Within.isReal_fixed (hx : Within k x) (le : k ≤ 58) : IsReal x.fixed := by
  obtain ⟨negative, units, holds, rfl, small⟩ := (hx.mono le).exists_eq
  have parts := hundredths_le small
  have power : Nat.pow 2 58 = 288230376151711744 := rfl
  have point : IsMark "." := by decide
  exact (isReal_signed negative (by omega)).join point (isReal_twoDigits (Nat.mod_lt _ (by decide)))

/-- A number of bounded magnitude without trailing zeros. -/
theorem Within.isReal_compact (hx : Within k x) (le : k ≤ 57) : IsReal x.compact := by
  unfold Binary.compact
  obtain ⟨negative, units, holds, same, small⟩ := ((hx.mono le).toHundredth (by decide)).exists_eq
  rw [same]
  replace small : units ≤ Nat.pow 2 58 * Format.single.one := small
  have power : Nat.pow 2 58 = 288230376151711744 := rfl
  dsimp only
  split
  · have zero : IsReal "0" := by decide
    exact zero
  · split
    · have whole : units / Format.single.one ≤ Nat.pow 2 58 :=
        Nat.div_le_of_le_mul (by rwa [Nat.mul_comm])
      have size := natAbs_signed negative (units / Format.single.one)
      refine isReal_int ?_
      rw [truncate, show wholeBound = 9223372036854775808 from rfl]
      omega
    · have parts := hundredths_le small
      exact isReal_append_places (isReal_signed negative (by omega)) (Nat.mod_lt _ (by decide))

end Binary

namespace Css

section Numbers

variable {x : Single} {k : Nat} (small : Binary.Within k x)
include small

theorem isReal_px (le : k ≤ 57) : IsReal (px x) := (small.isReal_compact le).append_mark (by decide)

theorem isReal_percent (le : k ≤ 57) : IsReal (percent x) :=
  (small.isReal_compact le).append_mark (by decide)

theorem isReal_degrees (le : k ≤ 57) : IsReal (degrees x) :=
  (small.isReal_compact le).append_mark (by decide)

end Numbers

/-! ### Declarations -/

/-- Declarations whose values show real numbers only. -/
def AllReal (declarations : List Declaration) : Prop := ∀ d ∈ declarations, IsReal d.value

instance : DecidablePred AllReal := fun declarations =>
  inferInstanceAs (Decidable (∀ d ∈ declarations, IsReal d.value))

variable {a b : List Declaration} {property value : String}

theorem allReal_nil : AllReal [] := fun _ mem => by cases mem

theorem allReal_append : AllReal (a ++ b) ↔ AllReal a ∧ AllReal b := List.forall_mem_append

theorem AllReal.cons (real : IsReal value) (others : AllReal a) :
    AllReal (⟨property, value⟩ :: a) :=
  List.forall_mem_cons.2 ⟨real, others⟩

theorem allReal_singleton (real : IsReal value) : AllReal [⟨property, value⟩] :=
  .cons real allReal_nil

theorem allReal_ite {p : Prop} [Decidable p] (ha : AllReal a) (hb : AllReal b) :
    AllReal (if p then a else b) := by
  split
  · exact ha
  · exact hb

/-- A declaration of a value, if there is one. -/
theorem allReal_toList {value? : Option String} (each : ∀ value ∈ value?, IsReal value) :
    AllReal (value?.map fun value => (⟨property, value⟩ : Declaration)).toList := by
  cases value? with
  | none => exact allReal_nil
  | some value => exact allReal_singleton (each value rfl)

/-- A declaration of real numbers, of the family of a font, whose name may be any, or of a stacking
order, which is a whole number of any size. -/
inductive Declaration.ShowsReals : Declaration → Prop where
  | value {d : Declaration} (real : IsReal d.value) : ShowsReals d
  | family (name : String) : ShowsReals ⟨"font-family", "\"" ++ name ++ "\", sans-serif"⟩
  | order (order : Int) : ShowsReals ⟨"z-index", toString order⟩

/-- Declarations that show real numbers. -/
def AllShowReals (declarations : List Declaration) : Prop := ∀ d ∈ declarations, d.ShowsReals

theorem AllReal.shows (real : AllReal a) : AllShowReals a := fun d mem => .value (real d mem)

theorem allShowReals_append : AllShowReals (a ++ b) ↔ AllShowReals a ∧ AllShowReals b :=
  List.forall_mem_append

theorem allShowReals_singleton {d : Declaration} : AllShowReals [d] ↔ d.ShowsReals :=
  List.forall_mem_singleton

theorem AllShowReals.lastOfEach (shows : AllShowReals a) : AllShowReals (Css.lastOfEach a) :=
  fun d mem => shows d ((lastOfEach_sublist a).subset mem)

end Css

end SceneMarkup
