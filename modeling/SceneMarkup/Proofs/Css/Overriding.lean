import Mathlib.Logic.Function.Basic
import SceneMarkup.Emission.Leaf
import SceneMarkup.Proofs.Css.Cascade

/-!
# Declarations in order

Declarations are applied in order, and each overrides what came before for its property. The
declarations that are left of a list are the last of each property, where they stood, and they do
what the list does.

* `Style`, `applied`: the value of each property after declarations that are applied in order;
* `SetsLast`: a place of a list where a property is set for the last time;
* `exists_places_lastOfEach`: what is left stands at those places, in their order;
* `lastOfEach_append`: what is left of two lists is what is left of the second behind that part of
  the first that the second does not override;
* `lastOfEach_of_nodup`: nothing is left out where no property comes twice;
* `applied_eq_getLast?`: a property has its last value;
* `cascade_of_lastOfEach`: the last of each property is what the cascade makes of a list, and it may
  be taken of a beginning before more is declared.
-/

namespace SceneMarkup.Css

/-! ### Places -/

/-- A place of a list where a property is set for the last time. -/
def SetsLast (list : List Declaration) (i : Nat) : Prop :=
  ∃ d, list[i]? = some d ∧ ∀ j d', i < j → list[j]? = some d' → d'.property ≠ d.property

theorem setsLast_zero {d : Declaration} {rest : List Declaration} :
    SetsLast (d :: rest) 0 ↔ declares rest d.property = false := by
  rw [declares_eq_false_iff]
  constructor
  · rintro ⟨_, first, later⟩ d' mem
    obtain ⟨j, place⟩ := List.mem_iff_getElem?.1 mem
    cases first
    exact later (j + 1) d' (Nat.succ_pos j) place
  · intro last
    refine ⟨d, rfl, fun j d' behind place => last d' ?_⟩
    obtain ⟨j, rfl⟩ := Nat.exists_eq_add_of_lt behind
    exact List.mem_iff_getElem?.2 ⟨_, by simpa using place⟩

theorem setsLast_succ {d : Declaration} {rest : List Declaration} {i : Nat} :
    SetsLast (d :: rest) (i + 1) ↔ SetsLast rest i := by
  constructor
  · rintro ⟨e, here, later⟩
    exact ⟨e, here, fun j d' behind place => later (j + 1) d' (Nat.succ_lt_succ behind) place⟩
  · rintro ⟨e, here, later⟩
    refine ⟨e, here, fun j d' behind place => ?_⟩
    cases j with
    | zero => exact absurd behind (Nat.not_lt_zero _)
    | succ j => exact later j d' (Nat.lt_of_succ_lt_succ behind) place

/-- What is left of a list stands at the places where a property is set for the last time, in their
order. -/
theorem exists_places_lastOfEach (list : List Declaration) :
    ∃ places : List Nat, places.Pairwise (· < ·) ∧ (∀ i, i ∈ places ↔ SetsLast list i) ∧
      (lastOfEach list).map some = places.map fun i => list[i]? := by
  induction list with
  | nil => exact ⟨[], List.Pairwise.nil, fun i => by simp [SetsLast], rfl⟩
  | cons first rest ih =>
    obtain ⟨places, ascending, places_iff, shape⟩ := ih
    have shifted : (places.map (· + 1)).Pairwise (· < ·) :=
      List.pairwise_map.2 (ascending.imp Nat.succ_lt_succ)
    have shifted_iff : ∀ i, i + 1 ∈ places.map (· + 1) ↔ SetsLast (first :: rest) (i + 1) := by
      intro i
      rw [setsLast_succ, ← places_iff]
      simp
    have behind : (lastOfEach rest).map some = (places.map (· + 1)).map fun i =>
        (first :: rest)[i]? := by
      rw [shape, List.map_map]
      rfl
    rw [lastOfEach_cons]
    by_cases again : declares rest first.property = true
    · rw [if_pos again]
      refine ⟨places.map (· + 1), shifted, fun i => ?_, behind⟩
      cases i with
      | zero => simp [setsLast_zero, again]
      | succ i => exact shifted_iff i
    · rw [if_neg again]
      refine ⟨0 :: places.map (· + 1), ?_, fun i => ?_, ?_⟩
      · refine List.pairwise_cons.2 ⟨fun i mem => ?_, shifted⟩
        obtain ⟨j, -, rfl⟩ := List.mem_map.1 mem
        exact Nat.succ_pos j
      · cases i with
        | zero => simp [setsLast_zero, again]
        | succ i => rw [← shifted_iff]; simp
      · rw [List.map_cons, List.map_cons, behind]
        rfl

/-! ### Lists in a row -/

/-- What is left of two lists: that part of the first which the second does not override, and the
second's. -/
theorem lastOfEach_append (a b : List Declaration) :
    lastOfEach (a ++ b) = ((lastOfEach a).filter fun d => !declares b d.property) ++
      lastOfEach b := by
  induction a with
  | nil => rfl
  | cons first rest ih =>
    rw [List.cons_append, lastOfEach_cons, lastOfEach_cons, declares_append, ih]
    by_cases again : declares rest first.property = true
    · rw [again, Bool.true_or, if_pos rfl, if_pos rfl]
    · rw [Bool.not_eq_true] at again
      rw [again, Bool.false_or, if_neg Bool.false_ne_true, List.filter_cons]
      by_cases later : declares b first.property = true <;> simp [later]

/-- Nothing is left out of a list in which no property comes twice. -/
theorem lastOfEach_of_nodup {list : List Declaration}
    (once : (list.map Declaration.property).Nodup) :
    lastOfEach list = list := by
  induction list with
  | nil => rfl
  | cons first rest ih =>
    obtain ⟨new, others⟩ := List.nodup_cons.1 once
    have last : declares rest first.property = false :=
      declares_eq_false_iff.2 fun d mem same => new (List.mem_map.2 ⟨d, mem, same⟩)
    rw [lastOfEach_cons, last, if_neg Bool.false_ne_true, ih others]

theorem lastOfEach_lastOfEach (list : List Declaration) :
    lastOfEach (lastOfEach list) = lastOfEach list :=
  lastOfEach_of_nodup (nodup_lastOfEach list)

/-- What a beginning overrides by itself may be left out before more is declared. -/
theorem lastOfEach_lastOfEach_append (a b : List Declaration) :
    lastOfEach (lastOfEach a ++ b) = lastOfEach (a ++ b) := by
  rw [lastOfEach_append, lastOfEach_append, lastOfEach_lastOfEach]

/-! ### Styles -/

/-- The value of each property that has one. -/
abbrev Style := String → Option String

/-- One more declaration, which overrides what its property had. -/
def Style.set (style : Style) (d : Declaration) : Style :=
  Function.update style d.property (some d.value)

/-- The style after declarations that are applied in order. -/
def applied (list : List Declaration) : Style := list.foldl Style.set fun _ => none

theorem foldl_set (style : Style) (list : List Declaration) (property : String) :
    list.foldl Style.set style property =
      (valuesOf list property).getLast?.or (style property) := by
  induction list generalizing style with
  | nil => rfl
  | cons first rest ih =>
    rw [List.foldl_cons, ih, valuesOf_cons, Style.set]
    by_cases same : first.property = property
    · subst same
      rw [if_pos rfl, Function.update_self, List.getLast?_cons]
      cases (valuesOf rest first.property).getLast? <;> rfl
    · rw [if_neg same, Function.update_of_ne (Ne.symm same)]

/-- A property has the last of its values. -/
theorem applied_eq_getLast? (list : List Declaration) (property : String) :
    applied list property = (valuesOf list property).getLast? := by
  rw [applied, foldl_set, Option.or_none]

/-- What is left of a list does what the list does. -/
theorem applied_lastOfEach (list : List Declaration) :
    applied (lastOfEach list) = applied list := by
  funext property
  rw [applied_eq_getLast?, applied_eq_getLast?, valuesOf_lastOfEach]
  cases (valuesOf list property).getLast? <;> rfl

theorem mem_valuesOf {list : List Declaration} {property value : String} :
    value ∈ valuesOf list property ↔ ⟨property, value⟩ ∈ list := by
  simp only [valuesOf, List.mem_map, List.mem_filter, beq_iff_eq]
  constructor
  · rintro ⟨d, ⟨mem, rfl⟩, rfl⟩
    exact mem
  · intro mem
    exact ⟨_, ⟨mem, rfl⟩, rfl⟩

/-- The declarations that are left are those with the values that the properties have. -/
theorem mem_lastOfEach_iff_applied {list : List Declaration} {d : Declaration} :
    d ∈ lastOfEach list ↔ applied list d.property = some d.value := by
  calc d ∈ lastOfEach list
      ↔ d.value ∈ valuesOf (lastOfEach list) d.property := mem_valuesOf.symm
    _ ↔ d.value ∈ (valuesOf list d.property).getLast?.toList := by rw [valuesOf_lastOfEach]
    _ ↔ applied list d.property = some d.value := by rw [Option.mem_toList, applied_eq_getLast?]

/-- **The last declaration of each property is what the cascade makes of a list.** No property comes
twice, and what is left are the declarations at the places where a property is set for the last
time, in their order. What is left is left again, gives each property the value that the list gives
it when it is applied in order, and may be taken of a beginning before more is declared, which
changes no request. -/
theorem cascade_of_lastOfEach (list : List Declaration) :
    ((lastOfEach list).map Declaration.property).Nodup ∧
      (lastOfEach list).Sublist list ∧
      (∃ places : List Nat, places.Pairwise (· < ·) ∧ (∀ i, i ∈ places ↔ SetsLast list i) ∧
        (lastOfEach list).map some = places.map fun i => list[i]?) ∧
      lastOfEach (lastOfEach list) = lastOfEach list ∧
      applied (lastOfEach list) = applied list ∧
      (∀ d, d ∈ lastOfEach list ↔ applied list d.property = some d.value) ∧
      ∀ more, lastOfEach (lastOfEach list ++ more) = lastOfEach (list ++ more) ∧
        ∀ layer, Emission.ownRequest? layer (lastOfEach list ++ more) =
          Emission.ownRequest? layer (list ++ more) := by
  refine ⟨nodup_lastOfEach list, lastOfEach_sublist list, exists_places_lastOfEach list,
    lastOfEach_lastOfEach list, applied_lastOfEach list, fun _ => mem_lastOfEach_iff_applied,
    fun more => ?_⟩
  have early := lastOfEach_lastOfEach_append list more
  exact ⟨early, fun layer => by rw [Emission.ownRequest?, Emission.ownRequest?, early]⟩

/-- Of two widths the second is left, behind the height. -/
example : lastOfEach [⟨"width", "100px"⟩, ⟨"height", "20px"⟩, ⟨"width", "auto"⟩] =
    [⟨"height", "20px"⟩, ⟨"width", "auto"⟩] := by
  decide

end SceneMarkup.Css
