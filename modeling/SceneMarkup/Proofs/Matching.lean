import Mathlib.Data.List.Forall2

/-!
# Lists that match item by item

* `exists_of_forall₂`, `forall₂_of_mem`: the items that match are members of both lists;
* `filterMap_eq_of_forall₂`, `map_eq_of_forall₂`: what is the same of items that match is the same
  of the lists;
* `pairwise_of_forall₂`: what holds between any two items of one list holds between those of the
  other;
* `forall₂_of_mapM`, `mapM_of_forall₂`: the items of a list match what is made of them, if something
  is made of each;
* `sublistForall₂_append`, `sublistForall₂_flatMap`, `sublistForall₂_trans`: lists that match a part
  of another.
-/

namespace SceneMarkup

variable {α β γ : Type} {R : α → β → Prop}

/-- Items that are related one by one are so as members. -/
theorem forall₂_of_mem {as : List α} {bs : List β} (h : List.Forall₂ R as bs) :
    List.Forall₂ (fun a b => a ∈ as ∧ R a b) as bs :=
  (List.forall₂_and_left as bs).2 ⟨fun _ mem => mem, h⟩

theorem forall₂_and {S : α → β → Prop} {as : List α} {bs : List β} (h : List.Forall₂ R as bs)
    (h' : List.Forall₂ S as bs) : List.Forall₂ (fun a b => R a b ∧ S a b) as bs := by
  induction h with
  | nil => exact .nil
  | cons here _ ih =>
    cases h' with
    | cons also others => exact .cons ⟨here, also⟩ (ih others)

theorem forall₂_of_map_eq_map {f : α → γ} {g : β → γ} {as : List α} {bs : List β}
    (h : as.map f = bs.map g) : List.Forall₂ (fun a b => f a = g b) as bs := by
  rw [← List.forall₂_eq_eq_eq] at h
  exact List.forall₂_map_right_iff.1 (List.forall₂_map_left_iff.1 h)

theorem forall₂_zipIdx {as : List α} {bs : List β}
    (h : List.Forall₂ R as bs) (first : Nat) :
    List.Forall₂ (fun a b => R a.1 b.1 ∧ b.2 = a.2) (as.zipIdx first) (bs.zipIdx first) := by
  induction h generalizing first with
  | nil => exact .nil
  | cons related _ ih => exact .cons ⟨related, rfl⟩ (ih (first + 1))

theorem filterMap_eq_of_forall₂ {f : α → Option γ} {g : β → Option γ}
    (same : ∀ a b, R a b → g b = f a) {as : List α} {bs : List β}
    (h : List.Forall₂ R as bs) : bs.filterMap g = as.filterMap f := by
  induction h with
  | nil => rfl
  | cons here _ ih => rw [List.filterMap_cons, List.filterMap_cons, same _ _ here, ih]

theorem map_eq_of_forall₂ {f : α → γ} {g : β → γ} (same : ∀ a b, R a b → g b = f a) {as : List α}
    {bs : List β} (h : List.Forall₂ R as bs) : bs.map g = as.map f := by
  induction h with
  | nil => rfl
  | cons here _ ih => rw [List.map_cons, List.map_cons, same _ _ here, ih]

theorem exists_of_forall₂ {as : List α} {bs : List β} (h : List.Forall₂ R as bs) {a : α}
    (mem : a ∈ as) : ∃ b ∈ bs, R a b := by
  induction h with
  | nil => cases mem
  | cons here _ ih =>
    rcases List.mem_cons.1 mem with rfl | later
    · exact ⟨_, List.mem_cons_self, here⟩
    · obtain ⟨b, known, there⟩ := ih later
      exact ⟨b, List.mem_cons_of_mem _ known, there⟩

/-- What holds between any two items holds between any two that are related to them. -/
theorem pairwise_of_forall₂ {S : β → β → Prop} {T : α → α → Prop}
    (step : ∀ a a' b b', R a b → R a' b' → S b b' → T a a') {as : List α} {bs : List β}
    (h : List.Forall₂ R as bs) (apart : bs.Pairwise S) : as.Pairwise T := by
  induction h with
  | nil => exact .nil
  | cons here later ih =>
    obtain ⟨first, rest⟩ := List.pairwise_cons.1 apart
    refine .cons (fun a' mem => ?_) (ih rest)
    obtain ⟨b', known, there⟩ := exists_of_forall₂ later mem
    exact step _ _ _ _ here there (first b' known)

theorem forall₂_of_mapM {f : α → Option β} {as : List α} {bs : List β} (h : as.mapM f = some bs) :
    List.Forall₂ (fun a b => f a = some b) as bs := by
  induction as generalizing bs with
  | nil =>
    cases h
    exact .nil
  | cons a rest ih =>
    rw [List.mapM_cons] at h
    obtain ⟨first, here, h⟩ := Option.bind_eq_some_iff.1 h
    obtain ⟨others, there, h⟩ := Option.bind_eq_some_iff.1 h
    cases h
    exact .cons here (ih there)

theorem mapM_of_forall₂ {f : α → Option β} {as : List α} {bs : List β}
    (h : List.Forall₂ (fun a b => f a = some b) as bs) : as.mapM f = some bs := by
  induction h with
  | nil => rfl
  | cons here _ ih =>
    rw [List.mapM_cons, here, ih]
    rfl

theorem exists_of_mapM {f : α → Option β} {as : List α} {bs : List β}
    (h : as.mapM f = some bs) {b : β} (mem : b ∈ bs) : ∃ a ∈ as, f a = some b :=
  exists_of_forall₂ (forall₂_of_mapM h).flip mem

/-! ### Lists that match a part of another -/

theorem sublistForall₂_append_left {as : List α} {bs : List β} (h : List.SublistForall₂ R as bs)
    (first : List β) : List.SublistForall₂ R as (first ++ bs) := by
  induction first with
  | nil => exact h
  | cons b rest ih => exact .cons_right ih

theorem sublistForall₂_append {as as' : List α} {bs bs' : List β} (h : List.SublistForall₂ R as bs)
    (h' : List.SublistForall₂ R as' bs') : List.SublistForall₂ R (as ++ as') (bs ++ bs') := by
  induction h with
  | nil => exact sublistForall₂_append_left h' _
  | cons here _ ih => exact .cons here ih
  | cons_right _ ih => exact .cons_right ih

theorem sublistForall₂_flatMap {l : List γ} {f : γ → List α} {g : γ → List β}
    (h : ∀ c ∈ l, List.SublistForall₂ R (f c) (g c)) :
    List.SublistForall₂ R (l.flatMap f) (l.flatMap g) := by
  induction l with
  | nil => exact .nil
  | cons c rest ih =>
    obtain ⟨first, others⟩ := List.forall_mem_cons.1 h
    exact sublistForall₂_append first (ih others)

theorem sublistForall₂_trans {S : β → γ → Prop} {as : List α} {bs : List β} {cs : List γ}
    (h : List.SublistForall₂ R as bs) (h' : List.Forall₂ S bs cs) :
    List.SublistForall₂ (fun a c => ∃ b, R a b ∧ S b c) as cs := by
  induction h generalizing cs with
  | nil => exact .nil
  | cons here _ ih =>
    obtain ⟨c, rest, there, others, rfl⟩ := List.forall₂_cons_left_iff.1 h'
    exact .cons ⟨_, here, there⟩ (ih others)
  | cons_right _ ih =>
    obtain ⟨c, rest, -, others, rfl⟩ := List.forall₂_cons_left_iff.1 h'
    exact .cons_right (ih others)

theorem sublistForall₂_filter {as : List α} {bs : List β} (h : List.SublistForall₂ R as bs)
    (p : α → Bool) : List.SublistForall₂ R (as.filter p) bs := by
  induction h with
  | nil => exact .nil
  | @cons a _ _ _ here _ ih =>
    by_cases kept : p a = true
    · rw [List.filter_cons_of_pos kept]
      exact .cons here ih
    · rw [List.filter_cons_of_neg kept]
      exact .cons_right ih
  | cons_right _ ih => exact .cons_right ih

theorem sublistForall₂_imp {S : α → β → Prop} {as : List α} {bs : List β}
    (h : List.SublistForall₂ R as bs) (imp : ∀ a ∈ as, ∀ b, R a b → S a b) :
    List.SublistForall₂ S as bs := by
  induction h with
  | nil => exact .nil
  | cons here _ ih =>
    obtain ⟨first, others⟩ := List.forall_mem_cons.1 imp
    exact .cons (first _ here) (ih others)
  | cons_right _ ih => exact .cons_right (ih imp)

end SceneMarkup
