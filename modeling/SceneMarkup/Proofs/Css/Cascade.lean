import Mathlib.Data.List.Nodup
import SceneMarkup.Css.Declaration

/-!
# What the cascade leaves

* `lastOfEach_cons`: a declaration is left out if a later one sets its property;
* `mem_lastOfEach_iff`: a declaration is left if none after it sets its property;
* `lastOfEach_append_cons`: what is left in front of such a declaration, and behind it;
* `declares_lastOfEach`: what is left sets the same properties;
* `nodup_lastOfEach`: no two that are left set the same property;
* `eq_of_mem_lastOfEach`: so a property has one value;
* `valuesOf`, `valuesOf_lastOfEach`: the values that a list gives a property; what is left of them
  is the last.
-/

namespace SceneMarkup.Css

theorem declares_eq_false_iff {list : List Declaration} {property : String} :
    declares list property = false ↔ ∀ d ∈ list, d.property ≠ property := by
  simp [declares]

theorem declares_cons (d : Declaration) (rest : List Declaration) (property : String) :
    declares (d :: rest) property = (d.property == property || declares rest property) :=
  List.any_cons

/-- What comes last in a pass is kept if its property was seen neither before nor in the list. -/
theorem unseen_concat (seen : List String) (list : List Declaration) (d : Declaration) :
    unseen seen (list ++ [d]) =
      if seen.contains d.property || declares list d.property then unseen seen list
      else unseen seen list ++ [d] := by
  induction list generalizing seen with
  | nil => simp [unseen, declares]
  | cons first rest ih =>
    rw [List.cons_append, unseen, unseen]
    by_cases known : seen.contains first.property = true
    · -- A property that is seen already may be met again.
      have absorbed : (seen.contains d.property || declares (first :: rest) d.property) =
          (seen.contains d.property || declares rest d.property) := by
        by_cases same : first.property = d.property
        · rw [← same, known, Bool.true_or, Bool.true_or]
        · rw [declares_cons, beq_false_of_ne same, Bool.false_or]
      rw [if_pos known, if_pos known, ih, absorbed]
    · have met : ((first.property :: seen).contains d.property || declares rest d.property) =
          (seen.contains d.property || declares (first :: rest) d.property) := by
        rw [List.contains_cons, declares_cons, BEq.comm, Bool.or_assoc, Bool.or_left_comm]
      rw [if_neg known, if_neg known, ih, met]
      split <;> rfl

@[simp] theorem lastOfEach_nil : lastOfEach [] = [] := rfl

/-- The pass from the end leaves out the declarations that a later one overrides. -/
theorem lastOfEach_cons (d : Declaration) (rest : List Declaration) :
    lastOfEach (d :: rest) =
      if declares rest d.property then lastOfEach rest else d :: lastOfEach rest := by
  have backwards : declares rest.reverse d.property = declares rest d.property := List.any_reverse
  rw [lastOfEach, List.reverse_cons, unseen_concat, backwards]
  by_cases again : declares rest d.property = true <;> simp [again, lastOfEach]

/-- What is left is the first declaration, if no later one overrides it, and what is left behind. -/
theorem mem_lastOfEach_cons {d first : Declaration} {rest : List Declaration} :
    d ∈ lastOfEach (first :: rest) ↔
      (d = first ∧ declares rest first.property = false) ∨ d ∈ lastOfEach rest := by
  rw [lastOfEach_cons]
  cases declares rest first.property <;> simp

/-- A declaration is left if none after it sets its property. -/
theorem mem_lastOfEach_iff {list : List Declaration} {d : Declaration} :
    d ∈ lastOfEach list ↔
      ∃ before after, list = before ++ d :: after ∧ declares after d.property = false := by
  induction list with
  | nil => simp
  | cons first rest ih =>
    rw [mem_lastOfEach_cons, ih]
    constructor
    · rintro (⟨rfl, last⟩ | ⟨before, after, rfl, last⟩)
      · exact ⟨[], rest, rfl, last⟩
      · exact ⟨first :: before, after, rfl, last⟩
    · rintro ⟨_ | ⟨_, before⟩, after, same, last⟩ <;> cases same
      · exact .inl ⟨rfl, last⟩
      · exact .inr ⟨before, after, rfl, last⟩

theorem lastOfEach_sublist (list : List Declaration) : (lastOfEach list).Sublist list := by
  induction list with
  | nil => exact .slnil
  | cons first rest ih =>
    rw [lastOfEach_cons]
    split
    · exact ih.cons first
    · exact ih.cons_cons first

theorem lastOfEach_subset (list : List Declaration) : lastOfEach list ⊆ list :=
  (lastOfEach_sublist list).subset

/-- A declaration that no later one overrides stays, in front of what is left behind it. -/
theorem lastOfEach_append_cons (before : List Declaration) {after : List Declaration}
    {d : Declaration} (last : declares after d.property = false) :
    ∃ kept, kept.Sublist before ∧ lastOfEach (before ++ d :: after) =
      kept ++ d :: lastOfEach after := by
  induction before with
  | nil => exact ⟨[], List.Sublist.refl _, by rw [List.nil_append, lastOfEach_cons, last]; rfl⟩
  | cons first rest ih =>
    obtain ⟨kept, sublist, shape⟩ := ih
    rw [List.cons_append, lastOfEach_cons, shape]
    split
    · exact ⟨kept, sublist.cons first, rfl⟩
    · exact ⟨first :: kept, sublist.cons_cons first, rfl⟩

theorem declares_iff {list : List Declaration} {property : String} :
    declares list property = true ↔ ∃ d ∈ list, d.property = property := by
  simp [declares]

theorem declares_append (a b : List Declaration) (property : String) :
    declares (a ++ b) property = (declares a property || declares b property) :=
  List.any_append

/-- What is left sets the same properties. -/
theorem declares_lastOfEach (list : List Declaration) (property : String) :
    declares (lastOfEach list) property = declares list property := by
  induction list with
  | nil => rfl
  | cons first rest ih =>
    rw [lastOfEach_cons]
    by_cases again : declares rest first.property = true
    · rw [if_pos again, ih, declares_cons]
      by_cases same : first.property = property
      · rw [← same, beq_self_eq_true, Bool.true_or]
        exact again
      · rw [beq_false_of_ne same, Bool.false_or]
    · rw [if_neg again, declares_cons, ih, declares_cons]

/-- No two declarations that are left set the same property. -/
theorem nodup_lastOfEach (list : List Declaration) :
    ((lastOfEach list).map Declaration.property).Nodup := by
  induction list with
  | nil => exact List.nodup_nil
  | cons first rest ih =>
    rw [lastOfEach_cons]
    by_cases again : declares rest first.property = true
    · rw [if_pos again]
      exact ih
    · rw [if_neg again, List.map_cons, List.nodup_cons]
      refine ⟨fun mem => ?_, ih⟩
      obtain ⟨d, left, same⟩ := List.mem_map.1 mem
      rw [Bool.not_eq_true, declares_eq_false_iff] at again
      exact again d (lastOfEach_subset rest left) same

/-- Of the declarations that are left, a property has one value. -/
theorem eq_of_mem_lastOfEach {list : List Declaration} {d d' : Declaration}
    (h : d ∈ lastOfEach list) (h' : d' ∈ lastOfEach list)
    (same : d.property = d'.property) : d = d' :=
  List.inj_on_of_nodup_map (nodup_lastOfEach list) h h' same

/-! ### The values of a property -/

/-- The values that a list gives a property. -/
def valuesOf (list : List Declaration) (property : String) : List String :=
  (list.filter fun d => d.property == property).map Declaration.value

@[simp] theorem valuesOf_nil (property : String) : valuesOf [] property = [] := rfl

theorem valuesOf_cons (d : Declaration) (rest : List Declaration) (property : String) :
    valuesOf (d :: rest) property =
      if d.property = property then d.value :: valuesOf rest property
        else valuesOf rest property := by
  by_cases same : d.property = property <;> simp [valuesOf, same]

@[simp] theorem valuesOf_append (a b : List Declaration) (property : String) :
    valuesOf (a ++ b) property = valuesOf a property ++ valuesOf b property := by
  simp [valuesOf]

theorem valuesOf_eq_nil_iff {list : List Declaration} {property : String} :
    valuesOf list property = [] ↔ declares list property = false := by
  simp [valuesOf, declares]

/-- What is left of the values of a property is the last. -/
theorem valuesOf_lastOfEach (list : List Declaration) (property : String) :
    valuesOf (lastOfEach list) property = (valuesOf list property).getLast?.toList := by
  induction list with
  | nil => rfl
  | cons first rest ih =>
    rw [lastOfEach_cons, valuesOf_cons]
    by_cases same : first.property = property
    · subst same
      by_cases again : declares rest first.property = true
      · have nonempty : valuesOf rest first.property ≠ [] := by
          simp [valuesOf_eq_nil_iff, again]
        rw [if_pos again, if_pos rfl, ih, List.getLast?_cons_of_ne_nil nonempty]
      · have empty : valuesOf rest first.property = [] := by
          simpa [valuesOf_eq_nil_iff] using again
        simp [again, valuesOf_cons, ih, empty]
    · rw [if_neg same, ← ih]
      split
      · rfl
      · rw [valuesOf_cons, if_neg same]

/-- A property with one value keeps it. -/
theorem valuesOf_lastOfEach_of_eq_singleton {list : List Declaration} {property value : String}
    (one : valuesOf list property = [value]) : valuesOf (lastOfEach list) property = [value] := by
  rw [valuesOf_lastOfEach, one]
  rfl

end SceneMarkup.Css
