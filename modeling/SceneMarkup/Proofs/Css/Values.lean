import SceneMarkup.Css.Declaration
import SceneMarkup.Css.Quantity
import SceneMarkup.Proofs.Text.Kinds

/-!
# What values are written with

But for the names that a design gives to fonts, values are written with letters, digits, and the
marks of numbers, colors and functions.

* `isValueChar`, `IsValue`: these characters, and texts of nothing else;
* `isNumberChar`, `isOf_compact`, `isOf_fixed`: numbers have no marks but a hyphen and a point;
* `isValue_compact`, `isValue_fixed`: so they are such texts;
* `Declaration.IsTame`, `AllTame`: declarations of such values, and of anything but a font family.
-/

namespace SceneMarkup

open Text (IsOf isOf_int isOf_nat)

/-- Letters, digits, and the marks of numbers, colors and functions. -/
def isValueChar (c : Char) : Bool := c.isAlphanum || " #%(),-.".toList.contains c

/-- A text of letters, digits, and the marks of numbers, colors and functions. -/
abbrev IsValue (text : String) : Prop := IsOf isValueChar text

theorem isValueChar_of_isDigit (c : Char) (digit : c.isDigit = true) : isValueChar c = true := by
  rw [isValueChar, Text.isAlphanum_of_isDigit digit, Bool.true_or]

/-! ### Numbers -/

/-- Letters, digits, a hyphen and a point: the characters of a number, or of the name of what is
none. -/
def isNumberChar (c : Char) : Bool := c.isAlphanum || "-.".toList.contains c

theorem isNumberChar_of_isDigit (c : Char) (digit : c.isDigit = true) : isNumberChar c = true := by
  rw [isNumberChar, Text.isAlphanum_of_isDigit digit, Bool.true_or]

theorem isValueChar_of_isNumberChar (c : Char) (isNumber : isNumberChar c = true) :
    isValueChar c = true := by
  rcases Bool.or_eq_true_iff.1 isNumber with letter | mark
  · rw [isValueChar, letter, Bool.true_or]
  · rcases List.mem_cons.1 (List.contains_iff_mem.1 mark) with rfl | point
    · decide
    · rw [List.mem_singleton.1 point]
      decide

theorem isValue_nat (n : Nat) : IsValue (toString n) := isOf_nat isValueChar_of_isDigit n

theorem isOf_sign (negative : Bool) : IsOf isNumberChar (if negative then "-" else "") := by
  cases negative <;> decide

theorem isOf_twoDigits (n : Nat) : IsOf isNumberChar (Binary.twoDigits n) := by
  unfold Binary.twoDigits
  split
  · exact .append (by decide) (isOf_nat isNumberChar_of_isDigit n)
  · exact isOf_nat isNumberChar_of_isDigit n

theorem isOf_places (parts : Nat) : IsOf isNumberChar (Binary.places parts) := by
  unfold Binary.places
  split
  · decide
  · split
    · exact .append (by decide) (isOf_nat isNumberChar_of_isDigit _)
    · exact .append (by decide) (isOf_twoDigits parts)

section Numbers

variable {f : Format}

/-- A number is written by its name, as a whole number, or as a sign, a whole part and places. -/
theorem compact_cases (x : Binary f) :
    x.compact = "NaN" ∨ (∃ n : Int, x.compact = toString n) ∨
      ∃ (negative : Bool) (whole parts : Nat),
        x.compact = (if negative then "-" else "") ++ toString whole ++ Binary.places parts := by
  unfold Binary.compact
  dsimp only
  split
  · exact .inl rfl
  · exact .inr (.inl ⟨_, rfl⟩)
  · split
    · exact .inr (.inl ⟨0, rfl⟩)
    · split
      · exact .inr (.inl ⟨_, rfl⟩)
      · exact .inr (.inr ⟨_, _, _, rfl⟩)

theorem isOf_compact (x : Binary f) : IsOf isNumberChar x.compact := by
  rcases compact_cases x with name | ⟨n, whole⟩ | ⟨negative, whole, parts, places⟩
  · rw [name]
    decide
  · rw [whole]
    exact isOf_int isNumberChar_of_isDigit rfl n
  · rw [places]
    exact ((isOf_sign negative).append (isOf_nat isNumberChar_of_isDigit whole)).append
      (isOf_places parts)

theorem isOf_fixed (x : Binary f) : IsOf isNumberChar x.fixed := by
  unfold Binary.fixed
  split
  · exact (((isOf_sign _).append (isOf_nat isNumberChar_of_isDigit _)).append (by decide)).append
      (isOf_twoDigits _)
  · split <;> decide
  · decide

theorem isValue_compact (x : Binary f) : IsValue x.compact :=
  (isOf_compact x).mono isValueChar_of_isNumberChar

theorem isValue_fixed (x : Binary f) : IsValue x.fixed :=
  (isOf_fixed x).mono isValueChar_of_isNumberChar

end Numbers

namespace Css

theorem isValue_px (length : Single) : IsValue (px length) :=
  (isValue_compact length).append (by decide)

theorem isValue_percent (share : Single) : IsValue (percent share) :=
  (isValue_compact share).append (by decide)

/-! ### Declarations -/

/-- A property whose values name nothing: any but the font family. -/
def NamesNothing (property : String) : Prop := IsValue property ∧ property ≠ "font-family"

/-- A declaration that names nothing, and so is written with letters, digits, and the marks of
numbers, colors and functions. -/
structure Declaration.IsTame (d : Declaration) : Prop where
  property : NamesNothing d.property
  value : IsValue d.value

/-- Declarations that name nothing. -/
def AllTame (declarations : List Declaration) : Prop := ∀ d ∈ declarations, d.IsTame

instance : DecidablePred NamesNothing := fun property =>
  inferInstanceAs (Decidable (IsValue property ∧ property ≠ "font-family"))

instance : DecidablePred Declaration.IsTame := fun d =>
  decidable_of_iff (NamesNothing d.property ∧ IsValue d.value)
    ⟨fun ⟨property, value⟩ => ⟨property, value⟩, fun ⟨property, value⟩ => ⟨property, value⟩⟩

instance : DecidablePred AllTame := fun declarations =>
  inferInstanceAs (Decidable (∀ d ∈ declarations, d.IsTame))

variable {a b : List Declaration}

theorem allTame_nil : AllTame [] := fun _ mem => by cases mem

theorem allTame_append : AllTame (a ++ b) ↔ AllTame a ∧ AllTame b := List.forall_mem_append

section Single

variable {property value : String}

theorem AllTame.cons (isPlain : NamesNothing property) (isValue : IsValue value)
    (others : AllTame a) :
    AllTame (⟨property, value⟩ :: a) :=
  List.forall_mem_cons.2 ⟨⟨isPlain, isValue⟩, others⟩

theorem allTame_singleton (isPlain : NamesNothing property) (isValue : IsValue value) :
    AllTame [⟨property, value⟩] :=
  .cons isPlain isValue allTame_nil

/-- A declaration of a value, if there is one. -/
theorem allTame_toList (isPlain : NamesNothing property) {value? : Option String}
    (each : ∀ value ∈ value?, IsValue value) :
    AllTame (value?.map fun value => (⟨property, value⟩ : Declaration)).toList := by
  cases value? with
  | none => exact allTame_nil
  | some value => exact allTame_singleton isPlain (each value rfl)

end Single

theorem allTame_ite {p : Prop} [Decidable p] (ha : AllTame a) (hb : AllTame b) :
    AllTame (if p then a else b) := by
  split
  · exact ha
  · exact hb

theorem AllTame.sublist (h : AllTame b) (sublist : a.Sublist b) : AllTame a :=
  fun d mem => h d (sublist.subset mem)

end Css

end SceneMarkup
