import SceneMarkup.Proofs.Json.Extension
import SceneMarkup.Proofs.Numeric.Widening
import SceneMarkup.Scene.Codec.Field

/-!
# Written fields are read back

A record is written with a field for each of its parts, and each part is read from its field. What
is read does not depend on the form that the record has come to.

* `Reads`: a written value, and what is read from every form of it;
* `reads_boolean`, `reads_text`, `reads_single`, `reads_word`, `reads_items`, `reads_keywords`: the
  single values;
* `HoldsAll`, `reads_record`: the fields of every form of a record hold what was written;
* `required_of_holds`, `defaulted_of_holds`, `optional_of_holds`: and what is read from a field is
  what was written there.
-/

namespace SceneMarkup.Scene.Codec

open Json (ExtendedTo Holds)

variable {α : Type} {read : Json → Option α} {write : α → Json} {value : Json} {a : α}

/-- A value that is read in the same way in every form. -/
def Reads (read : Json → Option α) (value : Json) (a : α) : Prop :=
  ∀ other, ExtendedTo value other → read other = some a

/-! ### Single values -/

theorem reads_boolean (a : Bool) : Reads boolean (.bool a) a := by
  rintro _ ⟨⟩
  rfl

theorem reads_text (a : String) : Reads text (.string a) a := by
  rintro _ ⟨⟩
  rfl

/-- Numbers are written so that nothing of them is lost. -/
theorem reads_single {x : Single} (finite : x.isFinite = true) :
    Reads single (exactNumber x) x := by
  have wider : Format.single.Within Format.double := ⟨by decide, by decide⟩
  intro other extended
  rw [exactNumber, if_pos finite] at extended
  cases extended with
  | number => exact congrArg some (Binary.convert_convert wider finite)
  | whole denotes nonzero =>
    exact congrArg some (Binary.ofInt_of_denotes_convert wider denotes nonzero)

theorem reads_word (n : UInt32) : Reads word (Json.nat n.toNat) n := by
  rintro _ ⟨⟩
  have small : (0 : Int) ≤ n.toNat ∧ (n.toNat : Int) < UInt32.size :=
    ⟨Int.natCast_nonneg _, Int.ofNat_lt.2 n.toNat_lt⟩
  rw [word, if_pos small, Int.toNat_natCast, UInt32.ofNat_toNat]

theorem reads_items {values : List α} (each : ∀ a ∈ values, Reads read (write a) a) :
    Reads (items read) (writeItems write values) values := by
  intro other extended
  cases extended with
  | @array _ others matched =>
    rw [items]
    induction values generalizing others with
    | nil =>
      cases matched
      rfl
    | cons first rest ih =>
      obtain ⟨here, behind⟩ := List.forall_mem_cons.1 each
      cases matched with
      | cons extended matched =>
        rw [List.mapM_cons, here _ extended, ih behind matched]
        rfl

/-- Every value of an enumeration is read from the name that it is written with. -/
def Keywords.Complete [DecidableEq α] (keywords : Keywords α) : Prop :=
  ∀ a, keywords.lookup (keywords.name a) = some a

theorem reads_keywords [DecidableEq α] {keywords : Keywords α} (complete : keywords.Complete)
    (under : Vacant) (a : α) : Reads (keywords.read under) (keywords.write a) a := by
  rintro _ ⟨⟩
  exact complete a

/-! ### Fields -/

variable {fields written : Fields} {key : String}

/-- The fields of a record hold extended values under all keys of another one. -/
def HoldsAll (fields written : Fields) : Prop := ∀ field ∈ written, Holds fields field.1 field.2

theorem holdsAll_cons :
    HoldsAll fields ((key, value) :: written) ↔ Holds fields key value ∧ HoldsAll fields written :=
  List.forall_mem_cons

theorem holdsAll_append {more : Fields} :
    HoldsAll fields (written ++ more) ↔ HoldsAll fields written ∧ HoldsAll fields more :=
  List.forall_mem_append

/-- A record is read from its fields, which hold what was written in every form of it. -/
theorem reads_record {readFields : Fields → Option α} (keys : (written.map Prod.fst).Nodup)
    (each : ∀ fields, HoldsAll fields written → readFields fields = some a) :
    Reads (fun value => (fields? value).bind readFields) (.object written) a := by
  intro other extended
  obtain ⟨fields, rfl, holds⟩ := extended.object_inv keys
  exact each fields holds

theorem required_of_holds (holds : Holds fields key value) (reads : Reads read value a) :
    required read fields key = some a := by
  obtain ⟨other, found, extended⟩ := holds
  rw [required, found, Option.bind_some, reads other extended]

theorem defaulted_of_holds (holds : Holds fields key value) (reads : Reads read value a)
    (default : α) :
    defaulted read default fields key = some a := by
  obtain ⟨other, found, extended⟩ := holds
  rw [defaulted, found]
  exact reads other extended

/-- A field that may be null, and is not if it has a value. -/
theorem optional_of_holds {a? : Option α} (holds : Holds fields key (Json.ofOption write a?))
    (reads : ∀ a ∈ a?, Reads read (write a) a) (solid : ∀ a ∈ a?, write a ≠ .null) :
    optional read fields key = some a? := by
  obtain ⟨other, found, extended⟩ := holds
  rw [optional, found]
  cases a? with
  | none =>
    cases extended
    rfl
  | some a =>
    split
    · next absent => cases absent
    · next null =>
      obtain rfl := Option.some.inj null
      exact absurd (Json.eq_null_of_extendedTo_null extended) (solid a rfl)
    · next value present =>
      obtain rfl := Option.some.inj present
      rw [reads a rfl _ extended]
      rfl

/-- Numbers that can be written. -/
abbrev AllFinite (numbers : List Single) : Prop := ∀ x ∈ numbers, x.isFinite = true

theorem optional_single_of_holds {x? : Option Single}
    (holds : Holds fields key (Json.ofOption exactNumber x?)) (finite : AllFinite x?.toList) :
    optional single fields key = some x? := by
  refine optional_of_holds holds
    (fun x mem => reads_single (finite x (Option.mem_toList.2 mem))) fun x mem => ?_
  rw [exactNumber, if_pos (finite x (Option.mem_toList.2 mem))]
  exact nofun

theorem optional_keyword_of_holds [DecidableEq α] {keywords : Keywords α}
    (complete : keywords.Complete) (under : Vacant) {a? : Option α}
    (holds : Holds fields key (Json.ofOption keywords.write a?)) :
    optional (keywords.read under) fields key = some a? :=
  optional_of_holds holds (fun a _ => reads_keywords complete under a) fun _ _ => nofun

end SceneMarkup.Scene.Codec
