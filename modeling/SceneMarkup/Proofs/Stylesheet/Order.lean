import Mathlib.Data.List.Nodup
import SceneMarkup.Stylesheet.Registry

/-!
# The order of rules

Rules are sorted by base and number. As these two spell the class, and no two rules share a class,
the order is strict, and so the style text depends on which rules there are alone.

* `Rule.Spelled`: the class of a rule is its base, with its number behind it, if it has one;
* `Rule.StrictlyPrecedes`: in front by base, and then by number;
* `pairwise_sorted`: the sorted rules strictly increase;
* `css_eq_of_perm`: the style text is the same for every order of the same rules.
-/

namespace SceneMarkup

namespace Rule

/-- The class of a rule is its base, with its number behind it, if it has one. -/
def Spelled (rule : Rule) : Prop :=
  rule.className =
    if rule.suffix = 0 then rule.baseName else rule.baseName ++ "-" ++ toString rule.suffix

/-- In front by base, and then by number. -/
def StrictlyPrecedes (a b : Rule) : Prop :=
  a.baseName < b.baseName ∨ a.baseName = b.baseName ∧ a.suffix < b.suffix

theorem precedes_iff {a b : Rule} :
    a.precedes b = true ↔ a.baseName < b.baseName ∨
      a.baseName = b.baseName ∧ a.suffix ≤ b.suffix := by
  simp [precedes]

theorem precedes_trans {a b c : Rule} (h : a.precedes b = true) (h' : b.precedes c = true) :
    a.precedes c = true := by
  rw [precedes_iff] at h h' ⊢
  rcases h with less | ⟨same, le⟩ <;> rcases h' with less' | ⟨same', le'⟩
  · exact .inl (String.lt_trans less less')
  · exact .inl (same' ▸ less)
  · exact .inl (same ▸ less')
  · exact .inr ⟨same.trans same', Nat.le_trans le le'⟩

theorem precedes_total (a b : Rule) : (a.precedes b || b.precedes a) = true := by
  rw [Bool.or_eq_true, precedes_iff, precedes_iff]
  rcases Std.lt_trichotomy a.baseName b.baseName with less | same | greater
  · exact .inl (.inl less)
  · rcases Nat.le_total a.suffix b.suffix with le | ge
    · exact .inl (.inr ⟨same, le⟩)
    · exact .inr (.inr ⟨same.symm, ge⟩)
  · exact .inr (.inl greater)

theorem StrictlyPrecedes.asymm {a b : Rule} (h : a.StrictlyPrecedes b) :
    ¬ b.StrictlyPrecedes a := by
  rcases h with less | ⟨same, less⟩
  · rintro (greater | ⟨same, -⟩)
    · exact String.lt_irrefl _ (String.lt_trans less greater)
    · exact String.lt_irrefl _ (same ▸ less)
  · rintro (greater | ⟨-, greater⟩)
    · exact String.lt_irrefl _ (same ▸ greater)
    · omega

/-- Of two rules with classes of their own, one is strictly in front if it is in front at all. -/
theorem strictlyPrecedes_of_precedes {a b : Rule} (ha : a.Spelled) (hb : b.Spelled)
    (differ : a.className ≠ b.className) (h : a.precedes b = true) : a.StrictlyPrecedes b := by
  rcases precedes_iff.1 h with less | ⟨same, le⟩
  · exact .inl less
  · -- Rules of one base and one number would share their class.
    refine .inr ⟨same, Nat.lt_of_le_of_ne le fun suffix => differ ?_⟩
    rw [ha, hb, same, suffix]

end Rule

namespace Registry

theorem sorted_perm (registry : Registry) : registry.sorted.Perm registry.rules :=
  (List.mergeSort_perm _ _).trans registry.rules.reverse_perm

/-- The sorted rules strictly increase. -/
theorem pairwise_sorted {registry : Registry} (spelled : ∀ rule ∈ registry.rules, rule.Spelled)
    (nodup : (registry.rules.map Rule.className).Nodup) :
    registry.sorted.Pairwise Rule.StrictlyPrecedes := by
  have sorted : registry.sorted.Pairwise fun a b => a.precedes b = true :=
    @List.pairwise_mergeSort Rule Rule.precedes (fun _ _ _ => Rule.precedes_trans)
      Rule.precedes_total registry.rules.reverse
  have distinct : (registry.sorted.map Rule.className).Nodup :=
    (registry.sorted_perm.map Rule.className).nodup_iff.2 nodup
  have differ : registry.sorted.Pairwise fun a b => a.className ≠ b.className :=
    List.pairwise_map.1 distinct
  refine (sorted.and differ).imp_of_mem fun ha hb ⟨front, other⟩ => ?_
  exact Rule.strictlyPrecedes_of_precedes (spelled _ (registry.sorted_perm.subset ha))
    (spelled _ (registry.sorted_perm.subset hb)) other front

/-- The style text is the same for every order of the same rules. -/
theorem css_eq_of_perm {registry other : Registry}
    (spelled : ∀ rule ∈ registry.rules, rule.Spelled)
    (nodup : (registry.rules.map Rule.className).Nodup) (same : other.rules.Perm registry.rules) :
    other.css = registry.css := by
  have here := pairwise_sorted spelled nodup
  have there : other.sorted.Pairwise Rule.StrictlyPrecedes :=
    pairwise_sorted (fun rule mem => spelled rule (same.subset mem))
      ((same.map Rule.className).nodup_iff.2 nodup)
  have perm : other.sorted.Perm registry.sorted :=
    (other.sorted_perm.trans same).trans registry.sorted_perm.symm
  have sorted : other.sorted = registry.sorted :=
    List.Perm.eq_of_pairwise (fun _ _ _ _ front back => absurd back front.asymm) there here perm
  rw [css, sorted, css]

end Registry

end SceneMarkup
