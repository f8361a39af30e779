import Mathlib.Data.List.Nodup
import Mathlib.Data.String.Basic
import SceneMarkup.Typography.Font

/-!
# What a set of fonts lists

* `Catalogues`: families with weights, both in strictly ascending order, that list what a relation
  says;
* `Catalogues.unique`: one list at most does so for a relation;
* `FontSet.Keeps`: a set of fonts lists what a relation says, and every family has a weight;
* `keeps_insertAll`: a set keeps what was inserted, in whatever order and however often;
* `Keeps.catalogues`: what a set keeps is what it lists.
-/

namespace SceneMarkup.Typography

/-- A list of families with their weights, both in strictly ascending order, in which a family has a
weight exactly if the relation says so. -/
structure Catalogues (shown : String → Nat → Prop) (entries : List (String × List Nat)) : Prop where
  /-- Each family is listed once. -/
  families : entries.Pairwise fun entry later => entry.1 < later.1
  /-- Each weight of a family is listed once. -/
  weights : ∀ entry ∈ entries, entry.2.Pairwise (· < ·)
  /-- No family is listed without a weight. -/
  weighted : ∀ entry ∈ entries, entry.2 ≠ []
  /-- What is listed. -/
  lists : ∀ family weight,
    (∃ weights, (family, weights) ∈ entries ∧ weight ∈ weights) ↔ shown family weight

/-- Lists in strictly ascending order are the same if they have the same members. -/
theorem eq_of_ascending {α β : Type} [Preorder β] (key : α → β) {as bs : List α}
    (ascending : as.Pairwise fun a later => key a < key later)
    (ascending' : bs.Pairwise fun b later => key b < key later) (same : ∀ a, a ∈ as ↔ a ∈ bs) :
    as = bs := by
  have nodup : ∀ {l : List α}, (l.Pairwise fun a later => key a < key later) → l.Nodup := by
    intro l ordered
    refine ordered.imp fun {a b} front equal => ?_
    rw [equal] at front
    exact lt_irrefl _ front
  exact List.Perm.eq_of_pairwise (fun _ _ _ _ front back => absurd back (lt_asymm front)) ascending
    ascending' ((List.perm_ext_iff_of_nodup (nodup ascending) (nodup ascending')).2 same)

namespace Catalogues

variable {shown : String → Nat → Prop} {entries entries' : List (String × List Nat)}

/-- A family is listed with one list of weights, which has all that is shown of it. -/
theorem mem_weights_iff (catalogue : Catalogues shown entries) {family : String}
    {weights : List Nat} (mem : (family, weights) ∈ entries) {weight : Nat} :
    weight ∈ weights ↔ shown family weight := by
  rw [← catalogue.lists]
  refine ⟨fun listed => ⟨weights, mem, listed⟩, ?_⟩
  rintro ⟨others, mem', listed⟩
  have once : (entries.map Prod.fst).Nodup :=
    List.pairwise_map.2 (catalogue.families.imp fun front => ne_of_lt front)
  have same := List.inj_on_of_nodup_map once mem mem' rfl
  rwa [(Prod.mk.inj same).2]

/-- What one catalogue lists, any other of the same relation lists, too. -/
theorem subset (catalogue : Catalogues shown entries) (catalogue' : Catalogues shown entries') :
    entries ⊆ entries' := by
  rintro ⟨family, weights⟩ mem
  obtain ⟨weight, listed⟩ := List.exists_mem_of_ne_nil _ (catalogue.weighted _ mem)
  obtain ⟨weights', mem', -⟩ :=
    (catalogue'.lists family weight).2 ((catalogue.mem_weights_iff mem).1 listed)
  have same : weights = weights' :=
    eq_of_ascending id (catalogue.weights _ mem) (catalogue'.weights _ mem') fun other => by
      rw [catalogue.mem_weights_iff mem, catalogue'.mem_weights_iff mem']
  rw [same]
  exact mem'

/-- A relation has one catalogue at most. -/
theorem unique (catalogue : Catalogues shown entries) (catalogue' : Catalogues shown entries') :
    entries = entries' :=
  eq_of_ascending Prod.fst catalogue.families catalogue'.families fun _ =>
    ⟨fun mem => catalogue.subset catalogue' mem, fun mem => catalogue'.subset catalogue mem⟩

theorem congr (catalogue : Catalogues shown entries) {shown' : String → Nat → Prop}
    (same : ∀ family weight, shown family weight ↔ shown' family weight) :
    Catalogues shown' entries :=
  { catalogue with
    lists := fun family weight => (catalogue.lists family weight).trans (same family weight) }

end Catalogues

namespace FontSet

/-- A family has a weight in a set of fonts exactly if the relation says so, and no family is
without. -/
structure Keeps (fonts : FontSet) (shown : String → Nat → Prop) : Prop where
  known : ∀ (family : String) (weight : Nat),
    (∃ weights, fonts.families[family]? = some weights ∧ weight ∈ weights) ↔ shown family weight
  weighted : ∀ (family : String) (weights : Std.TreeSet Nat),
    fonts.families[family]? = some weights →
    ∃ weight, weight ∈ weights

theorem keeps_empty : Keeps {} fun _ _ => False where
  known family weight := by simp
  weighted family weights known := by simp at known

/-- The weights of a family after one more font. -/
theorem getElem?_families_insert (fonts : FontSet) (family other : String) (weight : Nat) :
    (fonts.insert family weight).families[other]? =
      if family = other then some ((fonts.families[other]?.getD {}).insert weight)
      else fonts.families[other]? := by
  simp only [insert, Std.TreeMap.getElem?_insert, Std.compare_eq_iff_eq,
    Std.TreeMap.getD_eq_getD_getElem?]
  split
  · next same => rw [same]
  · rfl

/-- One more font. -/
theorem Keeps.insert {fonts : FontSet} {shown : String → Nat → Prop} (keeps : fonts.Keeps shown)
    (family : String) (weight : Nat) :
    (fonts.insert family weight).Keeps fun family' weight' =>
      shown family' weight' ∨ (family, weight) = (family', weight') where
  known := by
    intro other number
    rw [getElem?_families_insert, ← keeps.known, Prod.mk.injEq]
    by_cases same : family = other
    · rw [if_pos same]
      cases known : fonts.families[other]? with
      | none => simp [same, Std.TreeSet.mem_insert]
      | some weights => simp [same, Std.TreeSet.mem_insert, or_comm]
    · simp [same]
  weighted := by
    intro other weights known
    rw [getElem?_families_insert] at known
    split at known
    · cases known
      exact ⟨weight, Std.TreeSet.mem_insert.2 (.inl (Std.compare_eq_iff_eq.2 rfl))⟩
    · exact keeps.weighted other weights known

/-- A set after fonts that are inserted one after the other. -/
def insertAll (fonts : FontSet) (more : List (String × Nat)) : FontSet :=
  more.foldl (fun fonts font => fonts.insert font.1 font.2) fonts

theorem insertAll_cons (fonts : FontSet) (font : String × Nat) (more : List (String × Nat)) :
    fonts.insertAll (font :: more) = (fonts.insert font.1 font.2).insertAll more := rfl

theorem insertAll_append (fonts : FontSet) (first more : List (String × Nat)) :
    fonts.insertAll (first ++ more) = (fonts.insertAll first).insertAll more :=
  List.foldl_append

theorem Keeps.insertAll {fonts : FontSet} {shown : String → Nat → Prop} (keeps : fonts.Keeps shown)
    (more : List (String × Nat)) :
    (fonts.insertAll more).Keeps fun family weight =>
      shown family weight ∨ (family, weight) ∈ more := by
  induction more generalizing fonts shown with
  | nil => simpa [FontSet.insertAll] using keeps
  | cons font rest ih =>
    have next := ih (keeps.insert font.1 font.2)
    simpa only [insertAll_cons, List.mem_cons, or_assoc, @eq_comm _ (_, _) font] using next

/-- A set keeps the fonts that were inserted, in whatever order and however often. -/
theorem keeps_insertAll (more : List (String × Nat)) :
    (insertAll {} more).Keeps fun family weight => (family, weight) ∈ more := by
  simpa using keeps_empty.insertAll more

/-- What a set keeps is what it lists. -/
theorem Keeps.catalogues {fonts : FontSet} {shown : String → Nat → Prop}
    (keeps : fonts.Keeps shown) :
    Catalogues shown fonts.toList where
  families :=
    List.pairwise_map.2 (Std.TreeMap.ordered_keys_toList.imp fun front => compare_lt_iff_lt.1 front)
  weights := by
    intro entry mem
    obtain ⟨⟨family, weights⟩, -, rfl⟩ := List.mem_map.1 mem
    exact Std.TreeSet.ordered_toList.imp fun front => compare_lt_iff_lt.1 front
  weighted := by
    intro entry mem
    obtain ⟨⟨family, weights⟩, known, rfl⟩ := List.mem_map.1 mem
    obtain ⟨weight, listed⟩ :=
      keeps.weighted family weights (Std.TreeMap.mem_toList_iff_getElem?_eq_some.1 known)
    exact List.ne_nil_of_mem (Std.TreeSet.mem_toList.2 listed)
  lists := by
    intro family weight
    rw [← keeps.known]
    constructor
    · rintro ⟨_, mem, listed⟩
      obtain ⟨⟨_, weights⟩, known, same⟩ := List.mem_map.1 mem
      obtain ⟨rfl, rfl⟩ := Prod.mk.inj same
      exact ⟨weights, Std.TreeMap.mem_toList_iff_getElem?_eq_some.1 known,
        Std.TreeSet.mem_toList.1 listed⟩
    · rintro ⟨weights, known, listed⟩
      exact ⟨weights.toList, List.mem_map.2
        ⟨_, Std.TreeMap.mem_toList_iff_getElem?_eq_some.2 known, rfl⟩,
        Std.TreeSet.mem_toList.2 listed⟩

/-- The address of a request is made of what is listed. -/
theorem url?_eq (fonts : FontSet) :
    fonts.url? =
      if fonts.toList = [] then none
      else
        some (origin ++ "/css2?" ++ "&".intercalate (fonts.toList.map familyQuery) ++
          "&display=swap") := by
  simp only [url?, isEmpty, ← Std.TreeMap.isEmpty_toList, toList, List.map_eq_nil_iff,
    List.isEmpty_iff]

end FontSet

end SceneMarkup.Typography
