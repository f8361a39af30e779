import SceneMarkup.Proofs.Emission.Naming
import SceneMarkup.Proofs.Emission.Pieces

/-!
# Masks lose, duplicate and reorder nothing

* `getElem?_takeWhile_eq_some_iff`, `mem_zipIdx_runAt_iff`: what follows a mask, by index;
* `Grouped`: a child is in the box of the mask that covers it, the box follows its mask, and holds
  nothing else;
* `grouped_pieces`: so it is for the pieces of every container;
* `markup_of_children_grouped`: the markup of children, with the boxes of masks opened.
-/

namespace SceneMarkup.Emission

open Scene (Layer Node shownIn)
open Picture (Assets)
open Position (Container)

/-! ### What follows a mask -/

theorem getElem?_takeWhile_eq_some_iff {α : Type} {p : α → Bool} {l : List α} {n : Nat} {a : α} :
    (l.takeWhile p)[n]? = some a ↔ l[n]? = some a ∧ ∀ m ≤ n, l[m]?.all p = true := by
  induction l generalizing n with
  | nil => simp
  | cons first rest ih =>
    by_cases taken : p first = true
    · rw [List.takeWhile_cons_of_pos taken]
      cases n with
      | zero => simp [taken]
      | succ n =>
        rw [List.getElem?_cons_succ, List.getElem?_cons_succ, ih]
        refine and_congr_right fun _ => ⟨fun all m bound => ?_, fun all m bound => ?_⟩
        · cases m with
          | zero => simpa using taken
          | succ m => exact all m (Nat.le_of_succ_le_succ bound)
        · exact all (m + 1) (Nat.succ_le_succ bound)
    · rw [List.takeWhile_cons_of_neg taken, List.getElem?_nil]
      constructor
      · intro h
        cases h
      · rintro ⟨-, all⟩
        exact absurd (by simpa using all 0 (Nat.zero_le n)) taken

/-- The child with an index is no mask. -/
theorem masksAt_eq_false_iff {children : List Node} {k : Nat} :
    masksAt children k = false ↔ (children[k]?.all fun child => !child.layer.isMask) = true := by
  rw [masksAt]
  cases children[k]? with
  | none => simp
  | some child => simp

/-- What follows a mask up to the next one: no mask stands between it and the mask. -/
theorem mem_zipIdx_runAt_iff {children : List Node} {i j : Nat} {child : Node} :
    (child, j) ∈ (runAt children i).zipIdx (i + 1) ↔
      (child, j) ∈ children.zipIdx ∧ i < j ∧ ∀ k, i < k → k ≤ j → masksAt children k = false := by
  rw [List.mk_mem_zipIdx_iff_le_and_getElem?_sub, List.mk_mem_zipIdx_iff_getElem?, runAt,
    getElem?_takeWhile_eq_some_iff, List.getElem?_drop]
  constructor
  · rintro ⟨after, here, noMask⟩
    rw [Nat.add_sub_cancel' after] at here
    refine ⟨here, after, fun k later bound => masksAt_eq_false_iff.2 ?_⟩
    have unmasked := noMask (k - (i + 1)) (by omega)
    rwa [List.getElem?_drop, Nat.add_sub_cancel' later] at unmasked
  · rintro ⟨here, after, noMask⟩
    refine ⟨after, by rwa [Nat.add_sub_cancel' after], fun m bound => ?_⟩
    rw [List.getElem?_drop]
    exact masksAt_eq_false_iff.1 (noMask (i + 1 + m) (by omega) (by omega))

/-! ### The children in pieces -/

theorem mem_pieces {all : List Member} {piece : Piece} (h : piece ∈ pieces all) :
    ∃ cluster ∈ clusters all, cluster.shown ≠ [] ∧ piece = cluster.piece := by
  obtain ⟨cluster, mem, made⟩ := List.mem_filterMap.1 h
  rw [Cluster.piece?] at made
  split at made
  · cases made
  · next nonempty =>
    exact ⟨cluster, mem, mt List.isEmpty_iff.2 nonempty, (Option.some.inj made).symm⟩

/-- A child by itself is covered by no mask. -/
theorem not_covers_of_own {all : List Member} {child : Node} {j : Nat}
    (h : .own child j ∈ pieces all) (i : Nat) : ¬ Covers (all.map Member.node) i j := by
  obtain ⟨cluster, mem, -, made⟩ := mem_pieces h
  have placed := placed_clusters all cluster mem
  cases cluster with
  | single index member =>
    cases made
    exact placed i
  | run mask first members => cases made

/-- The children that a run shows: those that follow its mask, if they are shown. -/
theorem shown_run {all members : List Member} {mask : Member} {i : Nat}
    (isRun : members = (all.drop (i + 1)).takeWhile fun member => !member.isMask) :
    (Cluster.run mask (i + 1) members).shown =
      ((runAt (all.map Member.node) i).zipIdx (i + 1)).filter fun child => child.1.isShown := by
  rw [← map_node_takeWhile, ← isRun, List.zipIdx_map]
  rfl

/-- The box of a mask holds the children that are shown and that the mask covers. -/
theorem mem_wrapper {all : List Member} {mask : Node} {i : Nat} {covered : List (Node × Nat)}
    (h : .wrapper mask i covered ∈ pieces all) :
    (mask, i) ∈ (all.map Member.node).zipIdx ∧ covered ≠ [] ∧
      ∀ child j, (child, j) ∈ covered ↔ (child, j) ∈ (all.map Member.node).zipIdx ∧
        child.isShown = true ∧ Covers (all.map Member.node) i j := by
  obtain ⟨cluster, mem, nonempty, made⟩ := mem_pieces h
  have placed := placed_clusters all cluster mem
  cases cluster with
  | single index member => cases made
  | run member first members =>
    obtain ⟨_, rfl, here, active, isRun⟩ := placed
    obtain ⟨rfl, rfl, rfl⟩ := Piece.wrapper.inj made
    obtain ⟨masks, visible⟩ := Bool.and_eq_true_iff.1 active
    have masksHere : masksAt (all.map Member.node) i = true := by
      rw [masksAt_map, here, Option.any_some, masks]
    have visibleHere : visibleAt (all.map Member.node) i = true := by
      rw [visibleAt_map, here, Option.any_some, visible]
    refine ⟨?_, nonempty, fun child j => ?_⟩
    · rw [List.mk_mem_zipIdx_iff_getElem?, List.getElem?_map, here, Option.map_some]
    · rw [shown_run isRun, List.mem_filter, mem_zipIdx_runAt_iff, Covers]
      constructor
      · rintro ⟨⟨inside, after, noMask⟩, isShown⟩
        exact ⟨inside, isShown, after, masksHere, visibleHere, noMask⟩
      · rintro ⟨inside, isShown, after, -, -, noMask⟩
        exact ⟨⟨inside, after, noMask⟩, isShown⟩

/-! ### Where the box of a mask stands -/

/-- The first index of a part of an enumerated list is the length of what is in front of it. -/
theorem length_eq_of_zipIdx_eq {α : Type} {l : List α} {before after : List (α × Nat)} {a : α}
    {index : Nat} (h : l.zipIdx = before ++ (a, index) :: after) : before.length = index := by
  have here : l.zipIdx[before.length]? = some (a, index) := by rw [h]; simp
  rw [List.getElem?_zipIdx, Option.map_eq_some_iff] at here
  obtain ⟨other, -, same⟩ := here
  have second := congrArg Prod.snd same
  simpa using second

/-- A piece that is the box of a mask comes from a run that is not empty. -/
theorem indexed_of_wrapper {all : List Member} {cluster : Cluster} (mem : cluster ∈ clusters all)
    {mask : Node} {i : Nat} {covered : List (Node × Nat)}
    (piece : cluster.piece? = some (.wrapper mask i covered)) :
    ∃ member rest, cluster.indexed = (member, i + 1) :: rest := by
  have placed := placed_clusters all cluster mem
  rw [Cluster.piece?] at piece
  split at piece
  · cases piece
  · next nonempty =>
    cases cluster with
    | single index member => cases piece
    | run member first members =>
      obtain ⟨index, rfl, -, -, -⟩ := placed
      cases piece
      cases members with
      | nil => exact absurd rfl nonempty
      | cons first rest => exact ⟨first, rest.zipIdx (index + 1 + 1), rfl⟩

/-- In front of the box of a mask are the children up to the mask. -/
theorem flatMap_shown_before {all : List Member} {before after : List Piece} {mask : Node} {i : Nat}
    {covered : List (Node × Nat)} (h : pieces all = before ++ .wrapper mask i covered :: after) :
    before.flatMap Piece.shown =
      ((all.map Member.node).zipIdx.take (i + 1)).filter fun child => child.1.isShown := by
  obtain ⟨first, second, split, rfl, made⟩ := List.filterMap_eq_append_iff.1 h
  obtain ⟨skipped, cluster, later, rfl, nothing, piece, -⟩ := List.filterMap_eq_cons_iff.1 made
  have front : first.filterMap Cluster.piece? = (first ++ skipped).filterMap Cluster.piece? := by
    rw [List.filterMap_append, List.filterMap_eq_nil_iff.2 nothing, List.append_nil]
  have mem : cluster ∈ clusters all := by
    rw [split]
    simp
  obtain ⟨member, rest, indexed⟩ := indexed_of_wrapper mem piece
  have flat : all.zipIdx = (first ++ skipped).flatMap Cluster.indexed ++
      (member, i + 1) :: (rest ++ later.flatMap Cluster.indexed) := by
    rw [← flatMap_indexed_clusters, split, ← List.append_assoc, List.flatMap_append,
      List.flatMap_cons, indexed, List.cons_append]
  -- The run begins right behind its mask, so what is in front of it ends with the mask.
  have count := length_eq_of_zipIdx_eq flat
  rw [front, flatMap_shown_piece?, flatMap_shown, ← map_zipIdx_node, ← List.map_take, flat,
    List.take_left' count]

/-- The mask of a box is flagged as one. -/
theorem masksAt_of_wrapper {all : List Member} {mask : Node} {i : Nat} {covered : List (Node × Nat)}
    (h : .wrapper mask i covered ∈ pieces all) : masksAt (all.map Member.node) i = true := by
  obtain ⟨-, nonempty, holds⟩ := mem_wrapper h
  obtain ⟨⟨child, j⟩, inside⟩ := List.exists_mem_of_ne_nil covered nonempty
  obtain ⟨-, -, covers⟩ := (holds child j).1 inside
  exact covers.2.1

theorem shown_ne_nil {all : List Member} {piece : Piece} (h : piece ∈ pieces all) :
    piece.shown ≠ [] := by
  cases piece with
  | own child index => exact List.cons_ne_nil _ _
  | wrapper mask i covered => exact (mem_wrapper h).2.1

/-- A mask that is shown stands right in front of its box. -/
theorem getLast?_before {all : List Member} {before after : List Piece} {mask : Node} {i : Nat}
    {covered : List (Node × Nat)} (h : pieces all = before ++ .wrapper mask i covered :: after)
    (isShown : mask.isShown = true) : before.getLast? = some (.own mask i) := by
  have mem : .wrapper mask i covered ∈ pieces all := by
    rw [h]
    simp
  have front : (before.flatMap Piece.shown).getLast? = some (mask, i) := by
    have here := List.mk_mem_zipIdx_iff_getElem?.1 (mem_wrapper mem).1
    have enumerated : (all.map Member.node).zipIdx[i]? = some (mask, i) := by
      rw [List.getElem?_zipIdx, here, Option.map_some, Nat.zero_add]
    rw [flatMap_shown_before h, List.take_add_one, enumerated, Option.toList_some,
      List.filter_append, List.filter_cons_of_pos (by exact isShown), List.filter_nil,
      List.getLast?_concat]
  rcases List.eq_nil_or_concat' before with rfl | ⟨init, last, rfl⟩
  · cases front
  · -- The last child in front of the box is the mask, and no box holds a mask.
    have lastMem : last ∈ pieces all := by
      rw [h]
      simp
    rw [List.flatMap_append, List.flatMap_singleton,
      List.getLast?_append_of_ne_nil _ (shown_ne_nil lastMem)] at front
    have inside := List.mem_of_getLast? front
    rw [List.getLast?_concat]
    cases last with
    | own child index =>
      cases List.mem_singleton.1 inside
      rfl
    | wrapper other k others =>
      have covers := ((mem_wrapper lastMem).2.2 mask i).1 inside
      have unmasked := covers.2.2.not_masksAt
      rw [masksAt_of_wrapper mem] at unmasked
      cases unmasked

/-! ### Grouping by masks -/

/-- How masks group the children of a container into pieces. -/
structure Grouped (children : List Node) (made : List Piece) : Prop where
  /-- Opening the boxes of masks gives the children that are shown, once each and in document
  order. -/
  opened : made.flatMap Piece.shown = shownIn children
  /-- A child that is shown is in the box of a mask exactly if the mask covers it. -/
  covered_iff : ∀ child j i, (child, j) ∈ children.zipIdx → child.isShown = true →
    ((∃ mask covered, .wrapper mask i covered ∈ made ∧ (child, j) ∈ covered) ↔ Covers children i j)
  /-- The box of a mask holds the children that are shown and that the mask covers, and at least
  one. -/
  holds : ∀ mask i covered, .wrapper mask i covered ∈ made →
    (mask, i) ∈ children.zipIdx ∧ covered ≠ [] ∧
      ∀ child j, (child, j) ∈ covered ↔
        (child, j) ∈ children.zipIdx ∧ child.isShown = true ∧ Covers children i j
  /-- In front of the box of a mask are the children up to the mask, and last the mask, if it is
  shown. -/
  follows : ∀ before mask i covered after, made = before ++ .wrapper mask i covered :: after →
    before.flatMap Piece.shown =
        ((children.zipIdx.take (i + 1)).filter fun child => child.1.isShown) ∧
      (mask.isShown = true → before.getLast? = some (.own mask i))

theorem grouped_pieces (all : List Member) : Grouped (all.map Member.node) (pieces all) where
  opened := flatMap_shown_pieces all
  covered_iff := by
    intro child j i inside isShown
    constructor
    · rintro ⟨mask, covered, mem, holds⟩
      exact (((mem_wrapper mem).2.2 child j).1 holds).2.2
    · intro covers
      -- The child is in some piece. By itself none would cover it, and only one mask does.
      have shown : (child, j) ∈ (pieces all).flatMap Piece.shown := by
        rw [flatMap_shown_pieces]
        exact List.mem_filter.2 ⟨inside, isShown⟩
      obtain ⟨piece, mem, holds⟩ := List.mem_flatMap.1 shown
      cases piece with
      | own other index =>
        cases List.mem_singleton.1 holds
        exact absurd covers (not_covers_of_own mem i)
      | wrapper mask k covered =>
        have same := covers.unique (((mem_wrapper mem).2.2 child j).1 holds).2.2
        exact ⟨mask, covered, same ▸ mem, holds⟩
  holds := fun _ _ _ mem => mem_wrapper mem
  follows := fun _ _ _ _ _ split => ⟨flatMap_shown_before split, getLast?_before split⟩

/-! ### The markup of children -/

namespace Piece

/-- The markup of the children in a piece: the markup of the piece, or what is in the box. -/
def opened : Piece → Markup → List Markup
  | own _ _, markup => [markup]
  | wrapper _ _ _, .element _ children => children
  | wrapper _ _ _, .text _ | wrapper _ _ _, .lineBreak => []

variable {options : Options} {assets : Assets} {parent : Layer} {container : Container}
  {children : List Node}

/-- Naming a piece names the children in it. -/
theorem forall₂_opened {piece : Piece} {markup : Markup}
    (named : (piece.sketch options assets parent container children).NamedAs markup) :
    List.Forall₂ Sketch.NamedAs (piece.contents options assets parent container children)
      (piece.opened markup) := by
  cases piece with
  | own child index => exact .cons named .nil
  | wrapper mask maskIndex covered =>
    obtain ⟨before, after, named⟩ := named
    obtain ⟨kids, between, inner, -, rfl⟩ := Sketch.name_masked_ok.1 named
    exact Sketch.forall₂_of_nameAll inner

end Piece

/-- What holds of the parts of each two matching items holds of all parts one after the other. -/
theorem forall₂_flatMap_zip {α β γ δ : Type} {R : γ → δ → Prop} {first : α → List γ}
    {second : α → β → List δ} {as : List α} {bs : List β}
    (h : List.Forall₂ (fun a b => List.Forall₂ R (first a) (second a b)) as bs) :
    List.Forall₂ R (as.flatMap first) ((as.zip bs).flatMap fun pair => second pair.1 pair.2) := by
  induction h with
  | nil => exact .nil
  | cons here _ ih =>
    rw [List.flatMap_cons, List.zip_cons_cons, List.flatMap_cons]
    exact List.rel_append here ih

/-- A child has some markup in some slot below the root. -/
def ShownAs (options : Options) (assets : Assets) (child : Node × Nat) (markup : Markup) : Prop :=
  ∃ slot, slot ≠ .root ∧ (drawn options assets child.1 slot).NamedAs markup

/-- **Masks lose, duplicate and reorder nothing.** The markup of the children of a container is that
of pieces into which masks group them; with the boxes of masks opened it is the markup of the
children that are shown, in document order. -/
theorem markup_of_children_grouped {options : Options} {assets : Assets} {parent : Layer}
    {container : Container} (isContainer : Container.ofLayer? parent = some container)
    {children : List Node} {sheet sheet' : Sheet} {output : List Markup}
    (named : Sketch.nameAll sheet (childSketches options parent (members options assets children)) =
      (.ok output, sheet')) :
    ∃ made : List Piece, Grouped children made ∧
      childSketches options parent (members options assets children) =
        made.map (Piece.sketch options assets parent container children) ∧
      List.Forall₂ (fun piece markup => List.Forall₂ Sketch.NamedAs
        (piece.contents options assets parent container children)
          (piece.opened markup)) made output ∧
      List.Forall₂ (ShownAs options assets) (shownIn children)
        ((made.zip output).flatMap fun pair => pair.1.opened pair.2) := by
  have grouped := grouped_pieces (members options assets children)
  rw [map_node_members] at grouped
  have sketches := childSketches_eq options assets isContainer children
  rw [sketches] at named
  have contents := (List.forall₂_map_left_iff.1 (Sketch.forall₂_of_nameAll named)).imp
    fun _ _ => Piece.forall₂_opened
  refine ⟨_, grouped, sketches, contents, ?_⟩
  rw [← grouped.opened]
  refine forall₂_flatMap_zip (contents.imp fun piece markup inside => ?_)
  refine (List.forall₂_map_left_iff.1 inside).imp fun child kid one => ⟨_, ?_, one⟩
  cases piece <;> simp [Piece.slot]

/-- A mask, a child that it covers, a hidden mask that ends it, and a child that none covers. -/
def maskedChildren : List Node :=
  [.mk { id := "1", kind := .rectangle, isMask := true } [], .mk { id := "2", kind := .ellipse } [],
    .mk { id := "3", kind := .rectangle, isMask := true, visible := false } [],
    .mk { id := "4", kind := .rectangle } []]

theorem markup_of_maskedChildren_grouped :
    ∃ output sheet', Sketch.nameAll {} (childSketches {} { id := "0", kind := .group }
        (members {} {} maskedChildren)) = (.ok output, sheet') ∧
      ∃ made, Grouped maskedChildren made ∧
        List.Forall₂ (ShownAs {} {}) (shownIn maskedChildren)
          ((made.zip output).flatMap fun pair => pair.1.opened pair.2) := by
  have sound : Sketch.faultsIn (childSketches {} { id := "0", kind := .group }
      (members {} {} maskedChildren)) = [] := by decide +kernel
  obtain ⟨output, sheet', named⟩ := Sketch.exists_nameAll_eq sound {}
  obtain ⟨made, grouped, -, -, shown⟩ := markup_of_children_grouped rfl named
  exact ⟨output, sheet', named, made, grouped, shown⟩

end SceneMarkup.Emission
