import Mathlib.Data.List.Nodup
import Mathlib.Data.List.Perm.Subperm
import Std.Data.String.ToNat
import Std.Data.TreeSet.Lemmas
import SceneMarkup.Stylesheet.Registry

/-!
# Free names

The candidates of a base are pairwise different, so among more candidates than there are names taken
one is free, and the bounded search for it always ends on a free one.

* `candidate_injective`: a base has no candidate twice;
* `le_firstFree`, `mem_taken_of_lt_firstFree`: the search passes over taken candidates only;
* `candidate_firstFree_not_mem`: it ends on a free candidate;
* `counter_lt_mint`, `candidate_mint_not_mem`: what that says about minting;
* `Registry.Tried`: every candidate that a base has tried is taken, so no base has tried more
  candidates than there are names taken.
-/

namespace SceneMarkup

/-! ### Candidates -/

theorem candidate_injective {base : String} {m n : Nat} (hm : 0 < m) (hn : 0 < n)
    (h : candidate base m = candidate base n) : m = n := by
  have longer : ∀ k : Nat, base ++ "-" ++ toString k ≠ base := by
    intro k same
    have length := congrArg String.length same
    rw [String.length_append, String.length_append, show "-".length = 1 from rfl] at length
    omega
  unfold candidate at h
  -- Only the first candidate is the base itself, all others are longer.
  by_cases hm1 : m ≤ 1 <;> by_cases hn1 : n ≤ 1
  · omega
  · rw [if_pos hm1, if_neg hn1] at h
    exact absurd h.symm (longer n)
  · rw [if_neg hm1, if_pos hn1] at h
    exact absurd h (longer m)
  · rw [if_neg hm1, if_neg hn1] at h
    exact Nat.repr_injective (String.append_right_inj _ |>.1 h)

/-- The candidates of a base from one on, in a row. -/
theorem nodup_candidates (base : String) {n : Nat} (hn : 0 < n) (count : Nat) :
    ((List.range' n count).map (candidate base)).Nodup := by
  refine List.Nodup.map_on ?_ List.nodup_range'
  intro a ha b hb h
  have ha := (List.mem_range'_1.1 ha).1
  have hb := (List.mem_range'_1.1 hb).1
  exact candidate_injective (by omega) (by omega) h

/-! ### The bounded search -/

theorem le_firstFree (taken : Std.TreeSet String) (base : String) (room n : Nat) :
    n ≤ firstFree taken base room n := by
  induction room generalizing n with
  | zero => exact Nat.le_refl _
  | succ room ih =>
    unfold firstFree
    split
    · exact Nat.le_trans (Nat.le_succ n) (ih (n + 1))
    · exact Nat.le_refl _

theorem mem_taken_of_lt_firstFree {taken : Std.TreeSet String} {base : String} {room n m : Nat}
    (hn : n ≤ m) (hm : m < firstFree taken base room n) : candidate base m ∈ taken := by
  induction room generalizing n with
  | zero => exact absurd hm (Nat.not_lt.2 hn)
  | succ room ih =>
    unfold firstFree at hm
    split at hm
    · next isTaken =>
      rcases Nat.eq_or_lt_of_le hn with rfl | later
      · exact isTaken
      · exact ih later hm
    · exact absurd hm (Nat.not_lt.2 hn)

/-- A search that begins on a free candidate ends there. -/
theorem firstFree_of_not_mem {taken : Std.TreeSet String} {base : String} {n : Nat}
    (free : candidate base n ∉ taken) (room : Nat) : firstFree taken base room n = n := by
  cases room with
  | zero => rfl
  | succ room => exact if_neg free

/-- A search that ends on a taken candidate has used up its room. -/
theorem firstFree_eq_of_mem {taken : Std.TreeSet String} {base : String} {room n : Nat}
    (h : candidate base (firstFree taken base room n) ∈ taken) :
    firstFree taken base room n = n + room := by
  induction room generalizing n with
  | zero => rfl
  | succ room ih =>
    unfold firstFree at h ⊢
    split at h
    · next isTaken => rw [if_pos isTaken, ih h]; omega
    · next isFree => exact absurd h isFree

/-- Different names that are all taken are no more than there are names taken. -/
theorem length_le_size_of_subset {taken : Std.TreeSet String} {names : List String}
    (nodup : names.Nodup) (h : ∀ name ∈ names, name ∈ taken) : names.length ≤ taken.size := by
  have subset : names ⊆ taken.toList := fun name hname => Std.TreeSet.mem_toList.2 (h name hname)
  calc names.length ≤ taken.toList.length := (List.subperm_of_subset nodup subset).length_le
    _ = taken.size := Std.TreeSet.length_toList

/-- No more names are taken than there are in a list that has them all. -/
theorem size_le_length_of_subset {taken : Std.TreeSet String} {names : List String}
    (h : ∀ name ∈ taken, name ∈ names) : taken.size ≤ names.length := by
  have nodup : taken.toList.Nodup :=
    Std.TreeSet.distinct_toList.imp fun differ same => differ (Std.compare_eq_iff_eq.2 same)
  have subset : taken.toList ⊆ names := fun name mem => h name (Std.TreeSet.mem_toList.1 mem)
  calc taken.size = taken.toList.length := Std.TreeSet.length_toList.symm
    _ ≤ names.length := (List.subperm_of_subset nodup subset).length_le

/-- With as much room as there are names taken the search ends on a free candidate. -/
theorem candidate_firstFree_not_mem (taken : Std.TreeSet String) (base : String) {n : Nat}
    (hn : 0 < n) : candidate base (firstFree taken base taken.size n) ∉ taken := by
  intro isTaken
  have last := firstFree_eq_of_mem isTaken
  -- Then all of one candidate more than there are names taken would be taken.
  have all : ∀ name ∈ (List.range' n (taken.size + 1)).map (candidate base), name ∈ taken := by
    intro name hname
    obtain ⟨m, hm, rfl⟩ := List.mem_map.1 hname
    obtain ⟨low, high⟩ := List.mem_range'_1.1 hm
    rcases Nat.lt_or_ge m (n + taken.size) with before | after
    · exact mem_taken_of_lt_firstFree low (last ▸ before)
    · have : m = n + taken.size := by omega
      rwa [this, ← last]
  have length := length_le_size_of_subset (nodup_candidates base hn _) all
  rw [List.length_map, List.length_range'] at length
  omega

/-! ### Minting -/

namespace Registry

theorem counter_lt_mint (registry : Registry) (base : String) :
    registry.counter base < (registry.mint base).1 :=
  le_firstFree _ _ _ _

theorem candidate_mint_not_mem (registry : Registry) (base : String) :
    candidate base (registry.mint base).1 ∉ registry.taken :=
  candidate_firstFree_not_mem _ _ (Nat.succ_pos _)

theorem counter_mint (registry : Registry) (base other : String) :
    (registry.mint base).2.counter other =
      if base = other then (registry.mint base).1 else registry.counter other := by
  show (registry.counters.insert base (registry.mint base).1).getD other 0 = _
  simp only [Std.TreeMap.getD_insert, Std.LawfulEqCmp.compare_eq_iff_eq]
  rfl

theorem mem_taken_mint {registry : Registry} {base name : String} :
    name ∈ (registry.mint base).2.taken ↔
      candidate base (registry.mint base).1 = name ∨ name ∈ registry.taken := by
  show name ∈ registry.taken.insert (candidate base (registry.mint base).1) ↔ _
  rw [Std.TreeSet.mem_insert, Std.LawfulEqCmp.compare_eq_iff_eq]

theorem counter_le_counter_mint (registry : Registry) (base other : String) :
    registry.counter other ≤ (registry.mint base).2.counter other := by
  rw [counter_mint]
  split
  · next same => exact same ▸ Nat.le_of_lt (registry.counter_lt_mint base)
  · exact Nat.le_refl _

/-- Every candidate that a base has tried is taken. -/
def Tried (registry : Registry) : Prop :=
  ∀ base n, 0 < n → n ≤ registry.counter base → candidate base n ∈ registry.taken

theorem tried_empty : Tried {} := by
  intro base n positive tried
  have zero : counter {} base = 0 := Std.TreeMap.getD_emptyc
  omega

theorem Tried.mint {registry : Registry} (tried : registry.Tried) (base : String) :
    (registry.mint base).2.Tried := by
  intro other n positive bound
  rw [counter_mint] at bound
  rw [mem_taken_mint]
  split at bound
  · next same =>
    subst same
    -- Below the new counter are the candidates tried before, those passed over now, and the new
    -- name.
    rcases Nat.lt_or_ge (registry.counter base) n with after | before
    · rcases Nat.eq_or_lt_of_le bound with rfl | passed
      · exact .inl rfl
      · exact .inr (mem_taken_of_lt_firstFree after passed)
    · exact .inr (tried base n positive before)
  · exact .inr (tried other n positive bound)

/-- No base has tried more candidates than there are names taken. -/
theorem Tried.counter_le {registry : Registry} (tried : registry.Tried) (base : String) :
    registry.counter base ≤ registry.taken.size := by
  have length := length_le_size_of_subset
    (nodup_candidates base Nat.one_pos (registry.counter base)) fun name mem => by
      obtain ⟨n, inside, rfl⟩ := List.mem_map.1 mem
      obtain ⟨low, high⟩ := List.mem_range'_1.1 inside
      exact tried base n low (by omega)
  rwa [List.length_map, List.length_range'] at length

end Registry

end SceneMarkup
