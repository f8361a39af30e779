import Mathlib.Data.List.Flatten
import Mathlib.Data.List.Nodup
import Mathlib.Data.List.Sigma
import SceneMarkup.Scene.Node

/-!
# Visits of a tree

A walk meets a node, then, if it goes below the node, its children that are shown, one after the
other with everything below them.

* `Node.isShown`: visible, and no spacer;
* `Node.induct`: induction on nodes, with the claim for every child at hand;
* `visitsAt`: the nodes that a walk meets, in order, each with its address;
* `visitsIn_eq_flatMap`: the visits of children are those of each child that is shown;
* `nodup_addresses`: no address is met twice;
* `visitsAt_sublist`: a walk that goes below more nodes meets more;
* `mem_visitsAt_iff`: what a shorter walk meets, by what lies above it;
* `find?_visitsAt_stopped`: a walk that goes no further below what is looked for finds the same node
  first.
-/

namespace SceneMarkup.Scene

namespace Node

/-- A child that is shown: visible, and no spacer. -/
def isShown (node : Node) : Bool := node.layer.visible && !node.isSpacer

/-- Induction on nodes, with the claim for every child at hand. -/
@[elab_as_elim]
theorem induct {motive : Node → Prop}
    (mk : ∀ layer children, (∀ child ∈ children, motive child) → motive (.mk layer children)) :
    ∀ node, motive node
  | .mk layer children => mk layer children fun child _ => induct mk child

end Node

/-- A node that a walk meets, and its address: the indexes on the way to it, the last one first. -/
abbrev Visit := List Nat × Node

mutual

/-- The nodes that a walk meets at and below a node, in order. -/
def visitsAt (descends : Layer → Bool) (address : List Nat) : Node → List Visit
  | .mk layer children =>
    (address, .mk layer children) ::
      if descends layer then visitsIn descends address 0 children else []

/-- The nodes that a walk meets at and below children, counted from an index. -/
def visitsIn (descends : Layer → Bool) (address : List Nat) (index : Nat) : List Node → List Visit
  | [] => []
  | child :: rest =>
    (if child.isShown then visitsAt descends (index :: address) child else []) ++
      visitsIn descends address (index + 1) rest

end

variable (descends : Layer → Bool)

/-- The children that are shown, each with its index. -/
def shownIn (children : List Node) : List (Node × Nat) :=
  children.zipIdx.filter fun child => child.1.isShown

theorem visitsIn_eq (address : List Nat) (index : Nat) (children : List Node) :
    visitsIn descends address index children =
      ((children.zipIdx index).filter fun child => child.1.isShown).flatMap
        fun child => visitsAt descends (child.2 :: address) child.1 := by
  induction children generalizing index with
  | nil => rfl
  | cons child rest ih =>
    rw [visitsIn, ih, List.zipIdx_cons]
    by_cases isShown : child.isShown = true
    · rw [List.filter_cons_of_pos (by exact isShown), List.flatMap_cons, if_pos isShown]
    · rw [List.filter_cons_of_neg (by exact isShown), if_neg isShown, List.nil_append]

/-- The visits of children are those of each child that is shown. -/
theorem visitsIn_eq_flatMap (address : List Nat) (children : List Node) :
    visitsIn descends address 0 children =
      (shownIn children).flatMap fun child => visitsAt descends (child.2 :: address) child.1 :=
  visitsIn_eq descends address 0 children

theorem visitsAt_mk (address : List Nat) (layer : Layer) (children : List Node) :
    visitsAt descends address (.mk layer children) =
      (address, .mk layer children) ::
        if descends layer then
          (shownIn children).flatMap fun child => visitsAt descends (child.2 :: address) child.1
        else [] := by
  rw [visitsAt, visitsIn_eq_flatMap]

theorem mem_children_of_mem_shownIn {children : List Node} {child : Node × Nat}
    (h : child ∈ shownIn children) : child.1 ∈ children :=
  List.fst_mem_of_mem_zipIdx (List.mem_filter.1 h).1

theorem map_fst_shownIn (children : List Node) :
    (shownIn children).map Prod.fst = children.filter Node.isShown := by
  have enumerated : children.zipIdx.map Prod.fst = children := List.zipIdx_map_fst 0 children
  conv_rhs => rw [← enumerated, List.filter_map]
  rfl

/-! ### Addresses -/

/-- What is met at and below a node has an address below that of the node. -/
theorem suffix_of_mem_visitsAt (node : Node) : ∀ address, ∀ visit ∈ visitsAt descends address node,
    address <:+ visit.1 := by
  induction node using Node.induct with
  | mk layer children ih =>
    intro address visit mem
    rw [visitsAt_mk] at mem
    rcases List.mem_cons.1 mem with rfl | mem
    · exact List.suffix_rfl
    · split at mem
      · obtain ⟨child, inside, mem⟩ := List.mem_flatMap.1 mem
        exact (List.suffix_cons child.2 address).trans
          (ih child.1 (mem_children_of_mem_shownIn inside) _ visit mem)
      · cases mem

/-- An address is below at most one of the addresses of children. -/
theorem index_unique {address visited : List Nat} {i j : Nat} (h : (i :: address) <:+ visited)
    (h' : (j :: address) <:+ visited) : i = j := by
  have same := (List.suffix_of_suffix_length_le h h' (by simp)).eq_of_length (by simp)
  exact (List.cons.inj same).1

theorem pairwise_shownIn (children : List Node) :
    (shownIn children).Pairwise fun child other => child.2 ≠ other.2 := by
  have distinct : (children.zipIdx.map Prod.snd).Nodup := List.nodup_zipIdx_map_snd children
  exact (List.pairwise_map.1 distinct).filter _

/-- No address is met twice. -/
theorem nodup_addresses (node : Node) : ∀ address,
    ((visitsAt descends address node).map Prod.fst).Nodup := by
  induction node using Node.induct with
  | mk layer children ih =>
    intro address
    rw [visitsAt_mk, List.map_cons, List.nodup_cons]
    by_cases goes : descends layer = true
    · rw [if_pos goes, List.map_flatMap, List.nodup_flatMap]
      have below : ∀ child ∈ shownIn children, ∀ visited,
          visited ∈ (visitsAt descends (child.2 :: address) child.1).map Prod.fst →
            (child.2 :: address) <:+ visited := by
        intro child _ visited mem
        obtain ⟨visit, met, rfl⟩ := List.mem_map.1 mem
        exact suffix_of_mem_visitsAt descends child.1 _ visit met
      refine ⟨fun mem => ?_, fun child mem => ?_, ?_⟩
      · -- What is met below has a longer address.
        obtain ⟨child, inside, mem⟩ := List.mem_flatMap.1 mem
        have longer := (below child inside address mem).length_le
        rw [List.length_cons] at longer
        omega
      · exact ih child.1 (mem_children_of_mem_shownIn mem) _
      · -- Below two children the addresses differ at the index of the child.
        refine (pairwise_shownIn children).imp_of_mem fun inside inside' differ => ?_
        intro visited mem mem'
        exact differ (index_unique (below _ inside visited mem) (below _ inside' visited mem'))
    · rw [if_neg goes]
      exact ⟨List.not_mem_nil, List.nodup_nil⟩

/-! ### Walks that go further -/

/-- A walk that goes below more nodes meets more. -/
theorem visitsAt_sublist {descends' : Layer → Bool}
    (more : ∀ layer, descends layer = true → descends' layer = true) (node : Node) : ∀ address,
    (visitsAt descends address node).Sublist (visitsAt descends' address node) := by
  induction node using Node.induct with
  | mk layer children ih =>
    intro address
    rw [visitsAt_mk, visitsAt_mk]
    refine List.Sublist.cons_cons _ ?_
    by_cases goes : descends layer = true
    · rw [if_pos goes, if_pos (more layer goes)]
      exact List.Sublist.flatMap_right _ fun child mem =>
        ih child.1 (mem_children_of_mem_shownIn mem) _
    · rw [if_neg goes]
      exact List.nil_sublist _

/-! ### What lies above -/

/-- An item of an enumerated list is known by its index. -/
theorem eq_of_mem_zipIdx {α : Type} {items : List α} {item other : α × Nat}
    (mem : item ∈ items.zipIdx) (mem' : other ∈ items.zipIdx) (same : item.2 = other.2) :
    item = other := by
  obtain ⟨value, index⟩ := item
  obtain ⟨value', index'⟩ := other
  obtain rfl : index = index' := same
  have here := List.mk_mem_zipIdx_iff_getElem?.1 mem
  have here' := List.mk_mem_zipIdx_iff_getElem?.1 mem'
  rw [here] at here'
  cases here'
  rfl

/-- A child that is shown is known by its index. -/
theorem eq_of_index_eq {children : List Node} {child other : Node × Nat}
    (mem : child ∈ shownIn children) (mem' : other ∈ shownIn children) (same : child.2 = other.2) :
    child = other :=
  eq_of_mem_zipIdx (List.mem_filter.1 mem).1 (List.mem_filter.1 mem').1 same

section Above

variable {descends descends' : Layer → Bool}

/-- A walk goes below everything on the way to what it meets. -/
theorem descends_of_above (more : ∀ layer, descends layer = true → descends' layer = true)
    (node : Node) : ∀ address, ∀ visit ∈ visitsAt descends address node,
      ∀ above ∈ visitsAt descends' address node, above.1 <:+ visit.1 → above.1 ≠ visit.1 →
        descends above.2.layer = true := by
  induction node using Node.induct with
  | mk layer children ih =>
    intro address visit mem above met before differ
    have after := suffix_of_mem_visitsAt descends' _ address above met
    rw [visitsAt_mk] at mem met
    rcases List.mem_cons.1 mem with rfl | mem
    · -- Nothing lies above the node itself.
      exact absurd (before.eq_of_length_le after.length_le) differ
    · by_cases goes : descends layer = true
      · rw [if_pos goes] at mem
        rw [if_pos (more layer goes)] at met
        obtain ⟨child, inside, mem⟩ := List.mem_flatMap.1 mem
        rcases List.mem_cons.1 met with rfl | met
        · exact goes
        · obtain ⟨other, inside', met⟩ := List.mem_flatMap.1 met
          -- Both are met below one child, whose address they share.
          have below := suffix_of_mem_visitsAt descends child.1 _ visit mem
          have below' := suffix_of_mem_visitsAt descends' other.1 _ above met
          obtain rfl := eq_of_index_eq inside inside' (index_unique below (below'.trans before))
          exact ih child.1 (mem_children_of_mem_shownIn inside) _ visit mem above met before differ
      · rw [if_neg goes] at mem
        cases mem

/-- A walk meets what a longer walk meets, if it goes below everything on the way. -/
theorem mem_visitsAt_of_above (node : Node) : ∀ address, ∀ visit ∈ visitsAt descends' address node,
    (∀ above ∈ visitsAt descends' address node, above.1 <:+ visit.1 → above.1 ≠ visit.1 →
      descends above.2.layer = true) → visit ∈ visitsAt descends address node := by
  induction node using Node.induct with
  | mk layer children ih =>
    intro address visit mem above
    rw [visitsAt_mk] at mem above ⊢
    rcases List.mem_cons.1 mem with rfl | mem
    · exact List.mem_cons_self
    · by_cases further : descends' layer = true
      · rw [if_pos further] at mem above
        obtain ⟨child, inside, mem⟩ := List.mem_flatMap.1 mem
        obtain ⟨here, others⟩ := List.forall_mem_cons.1 above
        have below := suffix_of_mem_visitsAt descends' child.1 _ visit mem
        have goes : descends layer = true := by
          refine here ((List.suffix_cons _ _).trans below) fun same => ?_
          replace same : address = visit.1 := same
          have longer := below.length_le
          rw [← same, List.length_cons] at longer
          omega
        rw [if_pos goes]
        refine List.mem_cons_of_mem _ (List.mem_flatMap_of_mem inside ?_)
        refine ih child.1 (mem_children_of_mem_shownIn inside) _ visit mem fun other met => ?_
        exact others other (List.mem_flatMap_of_mem inside met)
      · rw [if_neg further] at mem
        cases mem

/-- A walk meets exactly those of the nodes of a longer walk on the way to which it goes below
everything. -/
theorem mem_visitsAt_iff (more : ∀ layer, descends layer = true → descends' layer = true)
    {node : Node} {address : List Nat} {visit : Visit} :
    visit ∈ visitsAt descends address node ↔
      visit ∈ visitsAt descends' address node ∧
        ∀ above ∈ visitsAt descends' address node, above.1 <:+ visit.1 → above.1 ≠ visit.1 →
          descends above.2.layer = true :=
  ⟨fun mem => ⟨(visitsAt_sublist descends more _ address).subset mem,
      descends_of_above more _ address visit mem⟩,
    fun ⟨mem, above⟩ => mem_visitsAt_of_above _ address visit mem above⟩

end Above

mutual

/-- Every node at and below a node, shown or not. -/
def everyNode : Node → List Node
  | .mk layer children => .mk layer children :: everyNodeIn children

/-- Every node at and below children. -/
def everyNodeIn : List Node → List Node
  | [] => []
  | child :: rest => everyNode child ++ everyNodeIn rest

end

theorem everyNodeIn_eq_flatMap (children : List Node) :
    everyNodeIn children = children.flatMap everyNode := by
  induction children with
  | nil => rfl
  | cons child rest ih => rw [everyNodeIn, List.flatMap_cons, ih]

theorem mem_everyNode (node : Node) : node ∈ everyNode node := by
  cases node
  exact List.mem_cons_self

theorem mem_everyNode_of_below {node below : Node} (h : below ∈ everyNodeIn node.children) :
    below ∈ everyNode node := by
  cases node
  exact List.mem_cons_of_mem _ h

/-- A walk meets some of the nodes of a tree, each once. -/
theorem visitsAt_sublist_everyNode (node : Node) : ∀ address,
    ((visitsAt descends address node).map Prod.snd).Sublist (everyNode node) := by
  induction node using Node.induct with
  | mk layer children ih =>
    intro address
    rw [visitsAt_mk, everyNode, List.map_cons, everyNodeIn_eq_flatMap]
    refine List.Sublist.cons_cons _ ?_
    by_cases goes : descends layer = true
    · rw [if_pos goes, List.map_flatMap]
      have met : ((shownIn children).flatMap fun child =>
          (visitsAt descends (child.2 :: address) child.1).map Prod.snd).Sublist
          ((shownIn children).flatMap fun child => everyNode child.1) :=
        List.Sublist.flatMap_right _ fun child mem => ih child.1 (mem_children_of_mem_shownIn mem) _
      refine met.trans ?_
      rw [← List.flatMap_map Prod.fst everyNode, map_fst_shownIn]
      exact List.filter_sublist.flatMap everyNode
    · rw [if_neg goes]
      exact List.nil_sublist _

/-! ### Walks that stop -/

variable {descends}

theorem find?_flatMap_congr {α β : Type} {p : β → Bool} {f g : α → List β} {l : List α}
    (h : ∀ a ∈ l, (f a).find? p = (g a).find? p) :
    (l.flatMap f).find? p = (l.flatMap g).find? p := by
  induction l with
  | nil => rfl
  | cons a rest ih =>
    obtain ⟨first, others⟩ := List.forall_mem_cons.1 h
    rw [List.flatMap_cons, List.flatMap_cons, List.find?_append, List.find?_append, first,
      ih others]

/-- A walk that goes no further below what is looked for finds the same node first. -/
theorem find?_visitsAt_stopped (sought : Layer → Bool) (node : Node) : ∀ address,
    (visitsAt (fun layer => descends layer && !sought layer) address node).find?
        (fun visit => sought visit.2.layer) =
      (visitsAt descends address node).find? fun visit => sought visit.2.layer := by
  induction node using Node.induct with
  | mk layer children ih =>
    intro address
    rw [visitsAt_mk, visitsAt_mk]
    by_cases found : sought layer = true
    · -- The walks part only here, where both have found the node.
      rw [List.find?_cons_of_pos (by exact found), List.find?_cons_of_pos (by exact found)]
    · rw [List.find?_cons_of_neg (by exact found), List.find?_cons_of_neg (by exact found)]
      rw [Bool.not_eq_true] at found
      rw [found, Bool.not_false, Bool.and_true]
      by_cases below : descends layer = true
      · rw [if_pos below, if_pos below]
        exact find?_flatMap_congr fun child mem =>
          ih child.1 (mem_children_of_mem_shownIn mem) (child.2 :: address)
      · rw [if_neg below, if_neg below]

/-- Walks that go below the same of the nodes that one of them meets are one walk. -/
theorem visitsAt_congr {descends' : Layer → Bool} (node : Node) : ∀ address,
    (∀ visit ∈ visitsAt descends address node, descends' visit.2.layer = descends visit.2.layer) →
      visitsAt descends' address node = visitsAt descends address node := by
  induction node using Node.induct with
  | mk layer children ih =>
    intro address agree
    rw [visitsAt_mk] at agree
    obtain ⟨here, below⟩ := List.forall_mem_cons.1 agree
    replace here : descends' layer = descends layer := here
    rw [visitsAt_mk, visitsAt_mk, here]
    by_cases goes : descends layer = true
    · rw [if_pos goes] at below ⊢
      rw [if_pos goes]
      refine congrArg _ (List.flatMap_congr fun child mem => ?_)
      refine ih child.1 (mem_children_of_mem_shownIn mem) (child.2 :: address) fun visit inside =>
        ?_
      exact below visit (List.mem_flatMap_of_mem mem inside)
    · rw [if_neg goes, if_neg goes]

end SceneMarkup.Scene
