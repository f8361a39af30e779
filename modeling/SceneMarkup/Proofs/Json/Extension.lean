import Mathlib.Data.List.Forall2
import Mathlib.Data.List.Nodup
import SceneMarkup.Json.Value
import SceneMarkup.Proofs.Matching
import SceneMarkup.Proofs.Numeric.Exact

/-!
# Extended values

One value has many forms: the keys of its objects stand in any order, with other keys among them,
and a whole number has a fraction or none.

* `lookup_eq_some_of_unique`: a key that stands only once has its value;
* `ExtendedTo`: a value, and another form of it with keys more;
* `ExtendedTo.array_inv`, `ExtendedTo.object_inv`: an extended list has extended items, and an
  extended object has a value under each key, which is extended in its turn.
-/

namespace SceneMarkup.Json

variable {key : String} {value : Json} {fields : List (String × Json)}

theorem mem_of_lookup (h : lookup key fields = some value) : (key, value) ∈ fields := by
  induction fields with
  | nil => cases h
  | cons field rest ih =>
    obtain ⟨name, first⟩ := field
    rw [lookup_cons] at h
    rcases Option.or_eq_some_iff.1 h with later | ⟨-, here⟩
    · exact List.mem_cons_of_mem _ (ih later)
    · split at here
      · next same =>
        cases here
        rw [same]
        exact List.mem_cons_self
      · cases here

theorem lookup_ne_none (mem : (key, value) ∈ fields) : lookup key fields ≠ none := by
  induction fields with
  | nil => cases mem
  | cons field rest ih =>
    obtain ⟨name, first⟩ := field
    rw [lookup_cons, Ne, Option.or_eq_none_iff]
    rintro ⟨absent, here⟩
    rcases List.mem_cons.1 mem with same | later
    · cases same
      rw [if_pos rfl] at here
      cases here
    · exact ih later absent

/-- A key that stands with one value only has that value. -/
theorem lookup_eq_some_of_unique (mem : (key, value) ∈ fields)
    (unique : ∀ other, (key, other) ∈ fields → other = value) : lookup key fields = some value := by
  obtain ⟨found, h⟩ := Option.ne_none_iff_exists'.1 (lookup_ne_none mem)
  rw [h, unique found (mem_of_lookup h)]

/-- A value, and another form of it: objects with their keys in any order and with other keys among
them, and whole numbers without a fraction. -/
inductive ExtendedTo : Json → Json → Prop
  | null : ExtendedTo .null .null
  | bool (value : Bool) : ExtendedTo (.bool value) (.bool value)
  | number (value : Number) : ExtendedTo (.number value) (.number value)
  | whole {value : Double} {n : Int} (denotes : value.Denotes n)
    (nonzero : value ≠ Binary.zero true) :
    ExtendedTo (.number (.real value)) (.number (.whole n))
  | string (text : String) : ExtendedTo (.string text) (.string text)
  | array {items others : List Json} (each : List.Forall₂ ExtendedTo items others) :
    ExtendedTo (.array items) (.array others)
  | object {fields others unknown all : List (String × Json)}
    (keys : fields.map Prod.fst = others.map Prod.fst)
    (values : List.Forall₂ ExtendedTo (fields.map Prod.snd) (others.map Prod.snd))
    (new : ∀ field ∈ unknown, field.1 ∉ fields.map Prod.fst)
      (order : all.Perm (others ++ unknown)) :
    ExtendedTo (.object fields) (.object all)

/-- Every value is a form of itself. -/
theorem ExtendedTo.refl : ∀ value : Json, ExtendedTo value value
  | .null => .null
  | .bool value => .bool value
  | .number value => .number value
  | .string text => .string text
  | .array items => .array (List.forall₂_same.2 fun item _ => refl item)
  | .object fields => by
    have values : ∀ value ∈ fields.map Prod.snd, ExtendedTo value value := by
      refine List.forall_mem_map.2 fun field mem => ?_
      have smaller : sizeOf field.2 < 1 + sizeOf fields := by
        have := List.sizeOf_lt_of_mem mem
        obtain ⟨key, value⟩ := field
        simp only [Prod.mk.sizeOf_spec] at this ⊢
        omega
      exact refl field.2
    have nothingAdded : ∀ field ∈ ([] : List (String × Json)),
        field.1 ∉ fields.map Prod.fst := by simp
    exact .object rfl (List.forall₂_same.2 values) nothingAdded (by rw [List.append_nil])

/-- The fields of an object may stand in any order, with others among them. -/
theorem extendedTo_of_perm {fields unknown all : List (String × Json)}
    (new : ∀ field ∈ unknown, field.1 ∉ fields.map Prod.fst)
    (order : all.Perm (fields ++ unknown)) :
    ExtendedTo (.object fields) (.object all) :=
  .object rfl (List.forall₂_same.2 fun value _ => .refl value) new order

theorem eq_null_of_extendedTo_null (extended : ExtendedTo value .null) : value = .null := by
  cases extended
  rfl

theorem ExtendedTo.array_inv {items : List Json} {other : Json}
    (extended : ExtendedTo (.array items) other) :
    ∃ others, other = .array others ∧ List.Forall₂ ExtendedTo items others := by
  cases extended with
  | array each => exact ⟨_, rfl, each⟩

/-- The fields of a record hold an extended value under a key. -/
def Holds (fields : List (String × Json)) (key : String) (value : Json) : Prop :=
  ∃ other, lookup key fields = some other ∧ ExtendedTo value other

/-- An extended object has an extended value under each of its keys. -/
theorem ExtendedTo.object_inv {written : List (String × Json)} {other : Json}
    (extended : ExtendedTo (.object written) other) (keys : (written.map Prod.fst).Nodup) :
    ∃ fields, other = .object fields ∧ ∀ field ∈ written, Holds fields field.1 field.2 := by
  cases extended with
  | @object _ others unknown all names values new order =>
    refine ⟨all, rfl, fun field mem => ?_⟩
    have each := forall₂_and (forall₂_of_map_eq_map names)
      (List.forall₂_map_right_iff.1 (List.forall₂_map_left_iff.1 values))
    obtain ⟨partner, listed, same, extended⟩ := exists_of_forall₂ each mem
    refine ⟨partner.2, lookup_eq_some_of_unique ?_ fun value inside => ?_, extended⟩
    · rw [same]
      exact order.mem_iff.2 (List.mem_append_left _ listed)
    · rcases List.mem_append.1 (order.mem_iff.1 inside) with known | added
      · rw [names] at keys
        exact congrArg Prod.snd (List.inj_on_of_nodup_map keys known listed same)
      · exact absurd (List.mem_map_of_mem mem) (new (field.1, value) added)

end SceneMarkup.Json
