import Mathlib.Data.List.Forall2
import Mathlib.Data.List.TakeWhile
import SceneMarkup.Emission.Cluster

/-!
# Clusters of children

Clustering keeps every child, in order, and puts a child under the mask that covers it.

* `masksAt`, `Covers`: the nearest earlier mask covers a child that is no mask, if that mask is
  visible;
* `Cluster.indexed`: the children of a cluster, each with its index;
* `flatMap_indexed_clusters`: the children of all clusters are the children, in document order;
* `Cluster.Placed`: no mask covers a child by itself, and a run is all that one mask covers;
* `placed_clusters`: so it is for every cluster;
* `forall₂_clusters`: members that are masks alike and cover alike are clustered alike.
-/

namespace SceneMarkup.Emission

open Scene (Node)

/-- The child with an index is flagged as a mask. -/
def masksAt (children : List Node) (index : Nat) : Bool :=
  children[index]?.any fun child => child.layer.isMask

/-- The child with an index is visible. -/
def visibleAt (children : List Node) (index : Nat) : Bool :=
  children[index]?.any fun child => child.layer.visible

/-- The `i`-th child is the nearest mask in front of the `j`-th, which is none itself, and is
visible. -/
def Covers (children : List Node) (i j : Nat) : Prop :=
  i < j ∧ masksAt children i = true ∧ visibleAt children i = true ∧
    ∀ k, i < k → k ≤ j → masksAt children k = false

/-- At most one mask covers a child. -/
theorem Covers.unique {children : List Node} {i i' j : Nat} (h : Covers children i j)
    (h' : Covers children i' j) : i = i' := by
  obtain ⟨before, masks, -, nearest⟩ := h
  obtain ⟨before', masks', -, nearest'⟩ := h'
  rcases Nat.lt_trichotomy i i' with less | same | greater
  · rw [nearest i' less (Nat.le_of_lt before')] at masks'
    cases masks'
  · exact same
  · rw [nearest' i greater (Nat.le_of_lt before)] at masks
    cases masks

theorem Covers.not_masksAt {children : List Node} {i j : Nat} (h : Covers children i j) :
    masksAt children j = false :=
  h.2.2.2 j h.1 (Nat.le_refl j)

/-! ### Nothing is lost -/

/-- The children of a cluster, each with its index. -/
def Cluster.indexed : Cluster → List (Member × Nat)
  | .single index member => [(member, index)]
  | .run _ first members => members.zipIdx first

theorem flatMap_indexed_singles (index : Nat) (members : List Member) :
    (singles index members).flatMap Cluster.indexed = members.zipIdx index := by
  induction members generalizing index with
  | nil => rfl
  | cons member rest ih =>
    rw [singles, List.flatMap_cons, ih, List.zipIdx_cons]
    rfl

/-- What is split off in front of the first mask are the members up to there. -/
theorem splitAtMask_fst (index : Nat) (members : List Member) :
    (splitAtMask index members).1 = members.takeWhile fun member => !member.isMask := by
  induction members generalizing index with
  | nil => rfl
  | cons member rest ih =>
    rw [splitAtMask]
    by_cases mask : member.isMask = true
    · rw [List.takeWhile_cons_of_neg (by simp [mask])]
      cases member.isActiveMask <;> simp [mask]
    · rw [Bool.not_eq_true] at mask
      rw [List.takeWhile_cons_of_pos (by simp [mask]), ← ih (index + 1)]
      simp [mask]

theorem indexed_splitAtMask (index : Nat) (members : List Member) :
    (splitAtMask index members).1.zipIdx index ++
        (splitAtMask index members).2.flatMap Cluster.indexed = members.zipIdx index := by
  induction members generalizing index with
  | nil => rfl
  | cons member rest ih =>
    rw [List.zipIdx_cons, ← ih (index + 1), splitAtMask]
    cases mask : member.isMask with
    | false => simp
    | true =>
      cases member.isActiveMask with
      | false => simp [Cluster.indexed, flatMap_indexed_singles]
      | true => simp [Cluster.indexed]

/-- The children of all clusters are the children, in document order. -/
theorem flatMap_indexed_clusters (members : List Member) :
    (clusters members).flatMap Cluster.indexed = members.zipIdx := by
  rw [clusters, List.flatMap_append, flatMap_indexed_singles]
  exact indexed_splitAtMask 0 members

/-! ### What covers what -/

/-- A child by itself is covered by no mask, and a run is what the mask in front of it covers. -/
def Cluster.Placed (all : List Member) : Cluster → Prop
  | .single index _ => ∀ i, ¬ Covers (all.map Member.node) i index
  | .run mask first members =>
    ∃ i, first = i + 1 ∧ all[i]? = some mask ∧ mask.isActiveMask = true ∧
      members = (all.drop (i + 1)).takeWhile fun member => !member.isMask

theorem mem_singles {index : Nat} {members : List Member} {cluster : Cluster}
    (h : cluster ∈ singles index members) :
    ∃ offset member, offset < members.length ∧ cluster = .single (index + offset) member := by
  induction members generalizing index with
  | nil => cases h
  | cons member rest ih =>
    rcases List.mem_cons.1 h with rfl | later
    · exact ⟨0, member, Nat.succ_pos _, rfl⟩
    · obtain ⟨offset, other, bound, rfl⟩ := ih later
      exact ⟨offset + 1, other, Nat.succ_lt_succ bound, by rw [Nat.add_right_comm]; rfl⟩

theorem masksAt_map (all : List Member) (k : Nat) :
    masksAt (all.map Member.node) k = all[k]?.any Member.isMask := by
  rw [masksAt, List.getElem?_map, Option.any_map]
  rfl

theorem visibleAt_map (all : List Member) (k : Nat) :
    visibleAt (all.map Member.node) k = all[k]?.any fun member => member.node.layer.visible := by
  rw [visibleAt, List.getElem?_map, Option.any_map]

/-- No member that is taken in front of the first mask is one. -/
theorem not_masksAt_takeWhile {members : List Member} {k : Nat}
    (h : k < (members.takeWhile fun member => !member.isMask).length) :
    members[k]?.any Member.isMask = false := by
  have bound : k < members.length :=
    Nat.lt_of_lt_of_le h (List.takeWhile_prefix _).length_le
  have same := (List.takeWhile_prefix fun member : Member => !member.isMask).getElem h
  have taken := List.mem_takeWhile_imp (List.getElem_mem h)
  rw [List.getElem?_eq_getElem bound, ← same]
  simpa using taken

/-- A member that is a mask is covered by none. -/
theorem placed_single_of_isMask {all : List Member} {index : Nat} {member : Member}
    (here : all[index]? = some member) (mask : member.isMask = true) :
    (Cluster.single index member).Placed all := by
  intro i covers
  have unmasked := covers.not_masksAt
  rw [masksAt_map, here] at unmasked
  rw [Option.any_some, mask] at unmasked
  cases unmasked

/-- What follows a hidden mask, up to the next one, is covered by none. -/
theorem placed_single_of_hidden {before rest : List Member} {mask member : Member}
    (isMask : mask.isMask = true) (hidden : mask.isActiveMask = false) {offset : Nat}
    (h : offset < (rest.takeWhile fun member => !member.isMask).length) :
    (Cluster.single (before.length + 1 + offset) member).Placed (before ++ mask :: rest) := by
  rintro i ⟨less, masks, visible, nearest⟩
  have here : (before ++ mask :: rest)[before.length]? = some mask := by simp
  have invisible : mask.node.layer.visible = false := by
    rw [Member.isActiveMask, isMask, Bool.true_and] at hidden
    exact hidden
  rcases Nat.lt_trichotomy i before.length with earlier | rfl | later
  · -- The hidden mask lies between the two.
    have unmasked := nearest before.length earlier (by omega)
    rw [masksAt_map, here, Option.any_some, isMask] at unmasked
    cases unmasked
  · rw [visibleAt_map, here, Option.any_some, invisible] at visible
    cases visible
  · -- Nothing that follows the hidden mask is one.
    obtain ⟨k, rfl⟩ := Nat.exists_eq_add_of_lt later
    have shift : (before ++ mask :: rest)[before.length + k + 1]? = rest[k]? := by
      rw [List.getElem?_append_right (by omega)]
      rw [show before.length + k + 1 - before.length = k + 1 by omega]
      rfl
    rw [masksAt_map, shift, not_masksAt_takeWhile (by omega)] at masks
    cases masks

theorem placed_splitAtMask (before members : List Member) :
    ∀ cluster ∈ (splitAtMask before.length members).2, cluster.Placed (before ++ members) := by
  -- What is split off moves to the members in front, so that indices are those in the container.
  induction members generalizing before with
  | nil => intro cluster h; cases h
  | cons member rest ih =>
    have later := ih (before ++ [member])
    rw [List.length_append, List.append_assoc] at later
    have lead := splitAtMask_fst (before.length + 1) rest
    have here : (before ++ member :: rest)[before.length]? = some member := by simp
    intro cluster h
    rw [splitAtMask] at h
    cases mask : member.isMask with
    | false =>
      simp only [mask] at h
      exact later cluster h
    | true =>
      cases active : member.isActiveMask with
      | true =>
        -- The mask by itself, what it covers, and what follows.
        simp only [mask, active, lead] at h
        rcases List.mem_cons.1 h with rfl | h
        · exact placed_single_of_isMask here mask
        · rcases List.mem_cons.1 h with rfl | h
          · refine ⟨before.length, rfl, here, active, ?_⟩
            rw [List.drop_length_add_append]
            rfl
          · exact later cluster h
      | false =>
        -- A hidden mask and all up to the next mask, each by itself, and what follows.
        simp only [mask, active, lead] at h
        rcases List.mem_append.1 h with h | h
        · rcases List.mem_cons.1 h with rfl | h
          · exact placed_single_of_isMask here mask
          · obtain ⟨offset, other, bound, rfl⟩ := mem_singles h
            exact placed_single_of_hidden mask active bound
        · exact later cluster h

/-- **Every child is clustered with the mask that covers it, and by itself if there is none.** -/
theorem placed_clusters (members : List Member) :
    ∀ cluster ∈ clusters members, cluster.Placed members := by
  intro cluster h
  rw [clusters] at h
  rcases List.mem_append.1 h with h | h
  · obtain ⟨offset, member, bound, rfl⟩ := mem_singles h
    rw [splitAtMask_fst] at bound
    rintro i ⟨less, masks, -, -⟩
    rw [masksAt_map, not_masksAt_takeWhile (by omega)] at masks
    cases masks
  · exact placed_splitAtMask [] members cluster h

/-! ### Related members -/

section Related

variable {R : Member → Member → Prop}

/-- Clusters of one shape whose members are related one by one. -/
inductive Cluster.Related (R : Member → Member → Prop) : Cluster → Cluster → Prop
  | single (index : Nat) {member member' : Member} (related : R member member') :
    Related R (.single index member) (.single index member')
  | run (first : Nat) {mask mask' : Member} {members members' : List Member}
    (related : R mask mask')
    (active : mask.isActiveMask = true) (each : List.Forall₂ R members members') :
    Related R (.run mask first members) (.run mask' first members')

theorem forall₂_singles {members members' : List Member} (each : List.Forall₂ R members members')
    (index : Nat) :
    List.Forall₂ (Cluster.Related R) (singles index members) (singles index members') := by
  induction each generalizing index with
  | nil => exact .nil
  | cons related _ ih => exact .cons (.single index related) (ih (index + 1))

variable (isMask : ∀ {member member'}, R member member' → member'.isMask = member.isMask)
  (isActive : ∀ {member member'}, R member member' → member'.isActiveMask = member.isActiveMask)

include isMask isActive

theorem forall₂_splitAtMask {members members' : List Member}
    (each : List.Forall₂ R members members') (index : Nat) :
    List.Forall₂ R (splitAtMask index members).1 (splitAtMask index members').1 ∧
      List.Forall₂ (Cluster.Related R) (splitAtMask index members).2
        (splitAtMask index members').2 := by
  induction each generalizing index with
  | nil => exact ⟨.nil, .nil⟩
  | @cons member member' rest rest' related _ ih =>
    obtain ⟨lead, later⟩ := ih (index + 1)
    rw [splitAtMask, splitAtMask, isMask related, isActive related]
    cases mask : member.isMask with
    | false => exact ⟨.cons related lead, later⟩
    | true =>
      cases active : member.isActiveMask with
      | true =>
        exact ⟨.nil, .cons (.single index related) (.cons (.run _ related active lead) later)⟩
      | false =>
        exact ⟨.nil, .cons (.single index related) (List.rel_append (forall₂_singles lead _) later)⟩

/-- Members that are masks alike and cover alike are clustered alike. -/
theorem forall₂_clusters {members members' : List Member}
    (each : List.Forall₂ R members members') :
    List.Forall₂ (Cluster.Related R) (clusters members) (clusters members') := by
  obtain ⟨lead, later⟩ := forall₂_splitAtMask isMask isActive each 0
  exact List.rel_append (forall₂_singles lead 0) later

end Related

end SceneMarkup.Emission
