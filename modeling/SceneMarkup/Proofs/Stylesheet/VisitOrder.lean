import Mathlib.Data.Finset.Card
import Mathlib.Data.Prod.Lex
import Mathlib.Data.String.Basic
import SceneMarkup.Proofs.Stylesheet.Accounts
import SceneMarkup.Proofs.Text.Kinds
import SceneMarkup.Proofs.Text.Pieces

/-!
# Whether the order of rules depends on visits

Lists of declarations that are asked for in another order get other classes. Their rules still stand
under the same bases with the same numbers, unless a base is spelled like a numbered name of another
one: then it matters which of the two comes first.

* `spelled_like_of_candidate_eq`: two bases share a name only if one is spelled like a numbered name
  of the other;
* `Registry.places`: the bases and numbers of the rules, in order. They are known from which there
  are (`places_eq_of_mem_iff`);
* `Registry.ofLists`, `textsOf`: the registry after asking for lists of declarations, and the texts
  that are asked for under a base;
* `Registry.Tallied`, `Tallied.concat`, `tallied_ofLists`: while the bases are apart, each has as
  many rules as texts, and their numbers have no gap;
* `places_ofLists_independent_iff`: so the places are the same for every order of visits if and only
  if the bases are apart;
* `order_of_cards_depends_on_visits`: two cards, and a layer called like the second of them.
-/

namespace SceneMarkup

open Css (Declaration)

/-! ### Names of two bases -/

theorem toList_candidate {base : String} {n : Nat} (more : 2 ≤ n) :
    (candidate base n).toList = base.toList ++ '-' :: (toString n).toList := by
  rw [candidate, if_neg (by omega), String.toList_append, String.toList_append, List.append_assoc]
  rfl

theorem candidate_of_le_one {base : String} {n : Nat} (first : n ≤ 1) :
    candidate base n = base := by
  rw [candidate, if_pos first]

/-- A base is shorter than its numbered names. -/
theorem ne_candidate {base : String} {n : Nat} (more : 2 ≤ n) :
    base ≠ candidate base n := fun same => by
  have first : candidate base 1 = candidate base n :=
    (candidate_of_le_one (Nat.le_refl 1)).trans same
  have := candidate_injective Nat.one_pos (by omega) first
  omega

/-- A number has no hyphen. -/
theorem hyphen_not_mem_toString (n : Nat) : '-' ∉ (toString n).toList := by
  have digits : Text.IsOf Char.isDigit (toString n) := Text.isOf_nat (fun _ digit => digit) n
  exact fun mem => absurd (digits '-' mem) (by decide)

/-- Names with a number have the base in front of their last hyphen. -/
theorem base_eq_of_candidate_eq {base other : String} {m n : Nat} (hm : 2 ≤ m) (hn : 2 ≤ n)
    (h : candidate base m = candidate other n) : base = other := by
  have chars := congrArg String.toList h
  rw [toList_candidate hm, toList_candidate hn] at chars
  rcases Text.append_cons_eq_append_cons_iff.1 chars with ⟨same, -⟩ | ⟨w, -, inside⟩ |
      ⟨w, -, inside⟩
  · exact String.toList_injective same
  · exact absurd (inside ▸ List.mem_append_right w List.mem_cons_self) (hyphen_not_mem_toString m)
  · exact absurd (inside ▸ List.mem_append_right w List.mem_cons_self) (hyphen_not_mem_toString n)

/-- Names of two bases are the same only if one base is spelled like a numbered name of the
other. -/
theorem spelled_like_of_candidate_eq {base other : String} (differ : base ≠ other) {m n : Nat}
    (h : candidate base m = candidate other n) :
    (2 ≤ n ∧ base = candidate other n) ∨ (2 ≤ m ∧ other = candidate base m) := by
  rcases Nat.lt_or_ge 1 m with hm | hm <;> rcases Nat.lt_or_ge 1 n with hn | hn
  · exact absurd (base_eq_of_candidate_eq hm hn h) differ
  · exact .inr ⟨hm, by rw [h, candidate_of_le_one hn]⟩
  · exact .inl ⟨hn, by rw [← h, candidate_of_le_one hm]⟩
  · rw [candidate_of_le_one hm, candidate_of_le_one hn] at h
    exact absurd h differ

namespace Registry

/-! ### Places of rules -/

/-- The bases and numbers of the rules, in order. -/
def places (registry : Registry) : List (String × Nat) :=
  registry.sorted.map fun rule => (rule.baseName, rule.suffix)

theorem mem_places {registry : Registry} {base : String} {n : Nat} :
    (base, n) ∈ registry.places ↔ ∃ rule ∈ registry.rules,
      rule.baseName = base ∧ rule.suffix = n := by
  simp only [places, List.mem_map, registry.sorted_perm.mem_iff, Prod.mk.injEq]

/-- The places strictly increase, by base and then by number. -/
theorem pairwise_places {registry : Registry} {loose : List String} (kept : registry.Kept loose) :
    registry.places.Pairwise fun a b => toLex a < toLex b :=
  List.pairwise_map.2
    ((pairwise_sorted kept.spelled kept.wellNamed.nodup).imp Prod.Lex.toLex_lt_toLex.2)

/-- Places that strictly increase and belong to the rules are those of the registry. -/
theorem places_eq_of_perm {registry : Registry} {loose : List String} (kept : registry.Kept loose)
    {places : List (String × Nat)}
    (perm : (registry.rules.map fun rule => (rule.baseName, rule.suffix)).Perm places)
    (order : places.Pairwise fun a b => toLex a < toLex b) : registry.places = places :=
  List.Perm.eq_of_pairwise (fun _ _ _ _ front back => absurd back (lt_asymm front))
    (pairwise_places kept) order ((registry.sorted_perm.map _).trans perm)

/-- The places are known from which there are. -/
theorem places_eq_of_mem_iff {registry other : Registry} {loose looseOther : List String}
    (kept : registry.Kept loose) (keptOther : other.Kept looseOther)
    (same : ∀ place, place ∈ other.places ↔ place ∈ registry.places) :
    other.places = registry.places := by
  have nodup : ∀ {registry : Registry} {loose}, registry.Kept loose → registry.places.Nodup :=
    fun kept => (pairwise_places kept).imp fun less same => absurd (same ▸ less) (lt_irrefl _)
  exact places_eq_of_perm keptOther ((other.sorted_perm.map _).symm.trans
    ((List.perm_ext_iff_of_nodup (nodup keptOther) (nodup kept)).2 same)) (pairwise_places kept)

/-! ### Lists of declarations -/

variable {lists : List (String × List Declaration)}

/-- The registry after asking for lists of declarations, each under a base. -/
def ofLists (lists : List (String × List Declaration)) : Registry :=
  (run {} (lists.map fun list => .intern (.own list.1 list.2))).2

theorem ofLists_append (lists more : List (String × List Declaration)) :
    ofLists (lists ++ more) =
      (run (ofLists lists) (more.map fun list => .intern (.own list.1 list.2))).2 := by
  rw [ofLists, List.map_append, run_append]
  rfl

theorem ofLists_concat (lists : List (String × List Declaration))
    (list : String × List Declaration) :
    ofLists (lists ++ [list]) = ((ofLists lists).intern (.own list.1 list.2)).2 :=
  ofLists_append lists [list]

theorem kept_ofLists (lists : List (String × List Declaration)) : (ofLists lists).Kept [] := by
  induction lists using List.reverseRecOn with
  | nil => exact kept_empty
  | append_singleton lists list ih =>
    rw [ofLists_concat]
    exact ih.intern _

/-- More lists leave the places where they are. -/
theorem places_ofLists_subset (lists more : List (String × List Declaration)) :
    (ofLists lists).places ⊆ (ofLists (lists ++ more)).places := by
  rintro ⟨base, n⟩ mem
  obtain ⟨rule, listed, place⟩ := mem_places.1 mem
  rw [ofLists_append]
  exact mem_places.2 ⟨rule, (rules_suffix_run _ _).subset listed, place⟩

/-- The different texts that are asked for under a base. -/
def textsOf (lists : List (String × List Declaration)) (base : String) : Finset String :=
  ((lists.filter fun list => list.1 = base).map fun list => signature list.2).toFinset

theorem mem_textsOf {base text : String} :
    text ∈ textsOf lists base ↔ ∃ list ∈ lists, list.1 = base ∧ signature list.2 = text := by
  simp [textsOf, and_assoc]

theorem textsOf_mono {more : List (String × List Declaration)} (subset : lists ⊆ more)
    (base : String) :
    textsOf lists base ⊆ textsOf more base := by
  intro text mem
  obtain ⟨list, listed, asked⟩ := mem_textsOf.1 mem
  exact mem_textsOf.2 ⟨list, subset listed, asked⟩

theorem textsOf_eq_of_perm {other : List (String × List Declaration)} (perm : other.Perm lists)
    (base : String) : textsOf other base = textsOf lists base :=
  Finset.Subset.antisymm (textsOf_mono perm.subset base) (textsOf_mono perm.symm.subset base)

/-- One list more is one text more under its base, and none under any other. -/
theorem textsOf_concat (lists : List (String × List Declaration)) (list : String × List Declaration)
    (base : String) :
    textsOf (lists ++ [list]) base =
      if list.1 = base then insert (signature list.2) (textsOf lists base)
        else textsOf lists base := by
  ext text
  split
  · next same => simp [mem_textsOf, same, or_comm, eq_comm]
  · next differ => simp [mem_textsOf, differ]

/-- Lists of one text are asked for under one base. -/
def TextsKeepBase (lists : List (String × List Declaration)) : Prop :=
  ∀ list ∈ lists, ∀ other ∈ lists, signature list.2 = signature other.2 → list.1 = other.1

instance : DecidablePred TextsKeepBase := fun lists =>
  inferInstanceAs (Decidable (∀ list ∈ lists, ∀ other ∈ lists,
    signature list.2 = signature other.2 → list.1 = other.1))

/-- No base is spelled like a numbered name that a rule of another base gets. -/
def BasesApart (lists : List (String × List Declaration)) : Prop :=
  ∀ list ∈ lists, ∀ base n, 2 ≤ n → n ≤ (textsOf lists base).card → list.1 ≠ candidate base n

theorem TextsKeepBase.mono {more : List (String × List Declaration)} (keep : TextsKeepBase more)
    (subset : lists ⊆ more) : TextsKeepBase lists :=
  fun list mem other memOther => keep list (subset mem) other (subset memOther)

theorem BasesApart.mono {more : List (String × List Declaration)} (apart : BasesApart more)
    (subset : lists ⊆ more) : BasesApart lists := fun list mem base n two bound =>
  apart list (subset mem) base n two
    (Nat.le_trans bound (Finset.card_le_card (textsOf_mono subset base)))

/-- A base alone is not spelled like a name of another one. -/
theorem basesApart_of_one {base : String} (one : ∀ list ∈ lists, list.1 = base) :
    BasesApart lists := by
  intro list mem other n two bound
  obtain ⟨text, inside⟩ := Finset.card_pos.1 (by omega : 0 < (textsOf lists other).card)
  obtain ⟨asked, memAsked, rfl, -⟩ := mem_textsOf.1 inside
  rw [one list mem, ← one asked memAsked]
  exact ne_candidate two

/-! ### The tally of a registry -/

/-- A registry in which each base has as many rules as texts, and their numbers have no gap. -/
structure Tallied (lists : List (String × List Declaration)) (registry : Registry) : Prop where
  counted : ∀ base, registry.counter base = (textsOf lists base).card
  placed : ∀ base n, (base, n) ∈ registry.places ↔
    ∃ k, 0 < k ∧ k ≤ (textsOf lists base).card ∧ candidateSuffix k = n

/-- What is remembered after asking for lists: their texts. -/
theorem recalled?_ofLists_ne_none_iff {base : String} {declarations : List Declaration} :
    (ofLists lists).recalled? (.own base declarations) ≠ none ↔
      ∃ list ∈ lists, signature list.2 = signature declarations := by
  induction lists using List.reverseRecOn with
  | nil => simp [ofLists, run, recalled?]
  | append_singleton lists list ih =>
    rw [ofLists_concat]
    by_cases alike : signature list.2 = signature declarations
    · have known : Request.Alike (.own list.1 list.2) (.own base declarations) := alike
      rw [recalled?_intern_of_alike _ known]
      simp [alike]
    · have unchanged : ¬ Request.Alike (.own list.1 list.2) (.own base declarations) := alike
      rw [recalled?_intern_of_not_alike _ unchanged, ih]
      simp [alike]

/-- The class of a rule is the name of its base that has the number. -/
theorem className_eq_candidate {rule : Rule} (spelled : rule.Spelled) {k : Nat} (positive : 0 < k)
    (suffix : candidateSuffix k = rule.suffix) : rule.className = candidate rule.baseName k := by
  rw [spelled, ← suffix, candidateSuffix, candidate]
  by_cases first : k ≤ 1
  · rw [if_pos first, if_pos rfl, if_pos first]
  · rw [if_neg first, if_neg (Nat.ne_of_gt positive), if_neg first]

/-- While the bases are apart, a new text gets the next name of its base. -/
theorem mint_ofLists {list : String × List Declaration} (apart : BasesApart (lists ++ [list]))
    (tallied : (ofLists lists).Tallied lists) (unknown : signature list.2 ∉ textsOf lists list.1) :
    ((ofLists lists).mint list.1).1 = (textsOf lists list.1).card + 1 := by
  have kept := kept_ofLists lists
  have free : candidate list.1 ((textsOf lists list.1).card + 1) ∉ (ofLists lists).taken := by
    intro isTaken
    rw [kept.taken, List.append_nil] at isTaken
    obtain ⟨rule, mem, same⟩ := List.mem_map.1 isTaken
    obtain ⟨k, positive, bound, suffix⟩ :=
      (tallied.placed _ _).1 (mem_places.2 ⟨rule, mem, rfl, rfl⟩)
    rw [className_eq_candidate (kept.spelled rule mem) positive suffix] at same
    by_cases one : rule.baseName = list.1
    · rw [one] at same bound
      have := candidate_injective positive (Nat.succ_pos _) same
      omega
    · rcases spelled_like_of_candidate_eq one same with ⟨two, spelled⟩ | ⟨two, spelled⟩
      · -- The base of the rule is spelled like the name that is asked for.
        obtain ⟨text, inside⟩ := Finset.card_pos.1 (Nat.lt_of_lt_of_le positive bound)
        obtain ⟨asked, memAsked, base, -⟩ := mem_textsOf.1 inside
        refine apart asked (List.mem_append_left _ memAsked) list.1 _ two ?_ (base.trans spelled)
        rw [textsOf_concat, if_pos rfl, Finset.card_insert_of_notMem unknown]
      · -- The base that is asked for is spelled like the class of the rule.
        have more :=
          Finset.card_le_card (textsOf_mono (List.subset_append_left lists [list]) rule.baseName)
        exact apart list (List.mem_append_right _ List.mem_cons_self) rule.baseName k two
          (Nat.le_trans bound more) spelled
  show firstFree _ _ _ ((ofLists lists).counter list.1 + 1) = _
  rw [tallied.counted]
  exact firstFree_of_not_mem free _

/-- Asking once more for a text that was asked for under its base keeps the tally. -/
theorem Tallied.concat_of_known {list other : String × List Declaration}
    (tallied : (ofLists lists).Tallied lists) (mem : other ∈ lists) (base : other.1 = list.1)
    (same : signature other.2 = signature list.2) :
    (ofLists (lists ++ [list])).Tallied (lists ++ [list]) := by
  have texts : ∀ base, textsOf (lists ++ [list]) base = textsOf lists base := by
    intro base'
    rw [textsOf_concat]
    split
    · next isBase =>
      exact Finset.insert_eq_of_mem (mem_textsOf.2 ⟨other, mem, base.trans isBase, same⟩)
    · rfl
  have remembered : (ofLists lists).recalled? (.own list.1 list.2) ≠ none :=
    recalled?_ofLists_ne_none_iff.2 ⟨other, mem, same⟩
  obtain ⟨className, known⟩ := Option.ne_none_iff_exists'.1 remembered
  rw [ofLists_concat, intern_of_recalled known]
  exact ⟨fun base => (texts base).symm ▸ tallied.counted base,
    fun base n => (texts base).symm ▸ tallied.placed base n⟩

/-- The numbers of one rule more. -/
theorem exists_candidateSuffix_succ {m n : Nat} :
    (∃ k, 0 < k ∧ k ≤ m + 1 ∧ candidateSuffix k = n) ↔
      candidateSuffix (m + 1) = n ∨ ∃ k, 0 < k ∧ k ≤ m ∧ candidateSuffix k = n := by
  constructor
  · rintro ⟨k, positive, bound, suffix⟩
    rcases Nat.eq_or_lt_of_le bound with rfl | less
    · exact .inl suffix
    · exact .inr ⟨k, positive, Nat.le_of_lt_succ less, suffix⟩
  · rintro (suffix | ⟨k, positive, bound, suffix⟩)
    · exact ⟨m + 1, Nat.succ_pos m, Nat.le_refl _, suffix⟩
    · exact ⟨k, positive, Nat.le_succ_of_le bound, suffix⟩

/-- While the bases are apart, a new text keeps the tally: its rule gets the next number of its
base. -/
theorem Tallied.concat_of_unknown {list : String × List Declaration}
    (apart : BasesApart (lists ++ [list])) (tallied : (ofLists lists).Tallied lists)
    (unknown : ∀ other ∈ lists, signature other.2 ≠ signature list.2) :
    (ofLists (lists ++ [list])).Tallied (lists ++ [list]) := by
  have new : signature list.2 ∉ textsOf lists list.1 := by
    intro mem
    obtain ⟨other, mem, -, same⟩ := mem_textsOf.1 mem
    exact unknown other mem same
  have forgotten : (ofLists lists).recalled? (.own list.1 list.2) = none := by
    by_contra known
    obtain ⟨other, mem, same⟩ := recalled?_ofLists_ne_none_iff.1 known
    exact unknown other mem same
  have minted := mint_ofLists apart tallied new
  have card : (textsOf (lists ++ [list]) list.1).card = (textsOf lists list.1).card + 1 := by
    rw [textsOf_concat, if_pos rfl, Finset.card_insert_of_notMem new]
  have others : ∀ base, list.1 ≠ base → textsOf (lists ++ [list]) base = textsOf lists base :=
    fun base differ => by rw [textsOf_concat, if_neg differ]
  rw [ofLists_concat, intern_of_unknown forgotten]
  constructor
  · intro base
    show ((ofLists lists).mint list.1).2.counter base = _
    rw [counter_mint, minted]
    split
    · next same => rw [← same, card]
    · next differ => rw [others base differ, tallied.counted]
  · intro base n
    rw [mem_places, rules_remember, rules_addRule, List.exists_mem_cons_iff, ← mem_places,
      tallied.placed]
    show list.1 = base ∧ candidateSuffix ((ofLists lists).mint list.1).1 = n ∨ _ ↔ _
    rw [minted]
    by_cases same : list.1 = base
    · subst same
      rw [card, exists_candidateSuffix_succ, and_iff_right rfl]
    · rw [others base same]
      exact or_iff_right fun first => same first.1

/-- One list more keeps the tally. -/
theorem Tallied.concat {list : String × List Declaration} (keep : TextsKeepBase (lists ++ [list]))
    (apart : BasesApart (lists ++ [list])) (tallied : (ofLists lists).Tallied lists) :
    (ofLists (lists ++ [list])).Tallied (lists ++ [list]) := by
  by_cases known : ∃ other ∈ lists, signature other.2 = signature list.2
  · obtain ⟨other, mem, same⟩ := known
    have base : other.1 = list.1 :=
      keep other (List.mem_append_left _ mem) list (List.mem_append_right _ List.mem_cons_self) same
    exact tallied.concat_of_known mem base same
  · exact tallied.concat_of_unknown apart fun other mem same => known ⟨other, mem, same⟩

/-- While the bases are apart, each base has as many rules as texts, and their numbers have no
gap. -/
theorem tallied_ofLists (keep : TextsKeepBase lists) (apart : BasesApart lists) :
    (ofLists lists).Tallied lists := by
  induction lists using List.reverseRecOn with
  | nil =>
    refine ⟨fun base => Std.TreeMap.getD_emptyc, fun base n => ?_⟩
    rw [mem_places]
    constructor
    · rintro ⟨rule, mem, -⟩
      cases mem
    · rintro ⟨k, positive, bound, -⟩
      exact absurd positive (Nat.not_lt.2 bound)
  | append_singleton lists list ih =>
    have front := List.subset_append_left lists [list]
    exact (ih (keep.mono front) (apart.mono front)).concat keep apart

/-! ### Orders of visits -/

/-- A base that comes first has all its rules under numbers without a gap, whatever comes after. -/
theorem mem_places_of_first (keep : TextsKeepBase lists) (base : String) {k : Nat}
    (positive : 0 < k) (bound : k ≤ (textsOf lists base).card) :
    (base, candidateSuffix k) ∈ (ofLists
      (lists.filter (fun list => list.1 = base) ++ lists.filter fun list =>
        !decide (list.1 = base))).places := by
  have one : ∀ list ∈ lists.filter (fun list => list.1 = base), list.1 = base := fun list mem =>
    of_decide_eq_true (List.mem_filter.1 mem).2
  have tallied := tallied_ofLists (keep.mono (List.filter_subset_self _)) (basesApart_of_one one)
  have texts : textsOf (lists.filter fun list => list.1 = base) base = textsOf lists base := by
    ext text
    simp [mem_textsOf, and_assoc]
  refine places_ofLists_subset _ _ ((tallied.placed base _).2 ⟨k, positive, ?_, rfl⟩)
  rwa [texts]

/-- **When the order of rules is independent of visits**: if and only if no base is spelled like a
numbered name that a rule of another base gets. -/
theorem places_ofLists_independent_iff (keep : TextsKeepBase lists) :
    (∀ other : List (String × List Declaration), other.Perm lists →
      (ofLists other).places = (ofLists lists).places) ↔ BasesApart lists := by
  constructor
  · rintro same list mem base n two bound spelled
    have first := mem_places_of_first keep base (by omega) bound
    have second := mem_places_of_first keep list.1 Nat.one_pos
      (Finset.card_pos.2 ⟨_, mem_textsOf.2 ⟨list, mem, rfl, rfl⟩⟩)
    rw [same _ (List.filter_append_perm _ lists)] at first second
    -- Both rules have the same class.
    obtain ⟨rule, memRule, isBase, suffix⟩ := mem_places.1 first
    obtain ⟨other, memOther, isOther, suffixOther⟩ := mem_places.1 second
    have kept := kept_ofLists lists
    have name := className_eq_candidate (kept.spelled rule memRule) (by omega) suffix.symm
    have nameOther :=
      className_eq_candidate (kept.spelled other memOther) Nat.one_pos suffixOther.symm
    rw [isBase] at name
    rw [isOther, candidate_of_le_one (Nat.le_refl 1), spelled] at nameOther
    have one := kept.wellNamed.eq_of_className memRule memOther (name.trans nameOther.symm)
    rw [← isOther, ← one, isBase] at spelled
    exact ne_candidate two spelled
  · intro apart other perm
    have tallied := tallied_ofLists keep apart
    have talliedOther := tallied_ofLists (keep.mono perm.subset) (apart.mono perm.subset)
    refine places_eq_of_mem_iff (kept_ofLists lists) (kept_ofLists other) fun ⟨base, n⟩ => ?_
    rw [tallied.placed, talliedOther.placed, textsOf_eq_of_perm perm]

/-- Layers with names of their own, two of them with one name. -/
def shelf : List (String × List Declaration) :=
  [("zeta", [⟨"top", "1px"⟩]), ("alpha", [⟨"top", "2px"⟩]), ("alpha", [⟨"top", "3px"⟩]),
    ("mid", [⟨"top", "4px"⟩])]

theorem basesApart_shelf : BasesApart shelf := by
  intro list mem base n two _ spelled
  have plain : ∀ list ∈ shelf, '-' ∉ list.1.toList := by decide
  refine plain list mem ?_
  rw [spelled, toList_candidate two]
  exact List.mem_append_right _ List.mem_cons_self

theorem order_of_shelf_independent_of_visits :
    TextsKeepBase shelf ∧ BasesApart shelf ∧
      ∀ other : List (String × List Declaration), other.Perm shelf →
        (ofLists other).places = (ofLists shelf).places := by
  have keep : TextsKeepBase shelf := by decide +kernel
  exact ⟨keep, basesApart_shelf, (places_ofLists_independent_iff keep).2 basesApart_shelf⟩

/-- Two cards, and a layer called like the second of them. -/
def cards : List (String × List Declaration) :=
  [("card", [⟨"top", "1px"⟩]), ("card", [⟨"top", "2px"⟩]), ("card-2", [⟨"top", "3px"⟩])]

/-- Two lists of one text under two bases: one of a value with a line break, and one of two
declarations. -/
def brokenValue : List (String × List Declaration) :=
  [("memo", [⟨"top", "1px;\nleft: 2px"⟩]), ("note", [⟨"top", "1px"⟩, ⟨"left", "2px"⟩])]

/-- Equal lists under equal bases are not enough. Whichever comes first gets its name: the second
card or the layer called like it, and the one or the other of two lists of one text. -/
theorem order_of_cards_depends_on_visits :
    ((∀ list ∈ cards, ∀ other ∈ cards, list.2 = other.2 → list.1 = other.1) ∧
      cards.reverse.Perm cards ∧
      (ofLists cards).places = [("card", 0), ("card", 2), ("card-2", 2)] ∧
      (ofLists cards.reverse).places = [("card", 0), ("card", 3), ("card-2", 0)]) ∧
    (∀ list ∈ brokenValue, ∀ other ∈ brokenValue, list.2 = other.2 → list.1 = other.1) ∧
      brokenValue.reverse.Perm brokenValue ∧
      (ofLists brokenValue).places = [("memo", 0)] ∧
      (ofLists brokenValue.reverse).places = [("note", 0)] := by
  refine ⟨⟨by decide +kernel, List.reverse_perm _, ?_, ?_⟩, by decide +kernel, List.reverse_perm _,
    ?_, ?_⟩ <;>
    exact places_eq_of_perm (kept_ofLists _) (by decide +kernel) (by decide)

end Registry

end SceneMarkup
