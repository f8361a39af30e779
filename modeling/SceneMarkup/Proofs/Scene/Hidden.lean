import SceneMarkup.Proofs.Matching
import SceneMarkup.Proofs.Scene.Visits

/-!
# Trees that are alike where they are shown

* `Node.BothHidden`: two nodes that cannot be seen, both masks or both none;
* `Node.AlikeWhereShown`: trees of one root that differ only inside of nodes below it that are
  hidden in both;
* `Node.AlikeAsChild`: two children that are hidden, or alike where they are shown;
* `AlikeWhereShown.isSpacer`, `AlikeAsChild.isShown`: what is asked of a node is answered alike;
* `forall₂_shown`: children that are shown are alike one by one;
* `AlikeWhereShown.eq`: trees that hide nothing are alike only if they are the same.
-/

namespace SceneMarkup.Scene

namespace Node

/-- Two nodes that cannot be seen, both masks or both none. -/
def BothHidden (node node' : Node) : Prop :=
  node.layer.visible = false ∧ node'.layer.visible = false ∧ node'.layer.isMask = node.layer.isMask

mutual

/-- Trees of one root that differ only inside of nodes below it that are hidden in both. -/
def AlikeWhereShown : Node → Node → Prop
  | .mk layer children, .mk layer' children' =>
    layer' = layer ∧ AllAlikeWhereShown children children'

/-- Children, each hidden in both lists, or alike where it is shown. -/
def AllAlikeWhereShown : List Node → List Node → Prop
  | [], [] => True
  | child :: rest, child' :: rest' =>
    (BothHidden child child' ∨ AlikeWhereShown child child') ∧ AllAlikeWhereShown rest rest'
  | [], _ :: _ | _ :: _, [] => False

end

/-- Two children that are hidden, or alike where they are shown. -/
def AlikeAsChild (child child' : Node) : Prop :=
  BothHidden child child' ∨ AlikeWhereShown child child'

theorem allAlikeWhereShown_iff {children children' : List Node} :
    AllAlikeWhereShown children children' ↔ List.Forall₂ AlikeAsChild children children' := by
  induction children generalizing children' with
  | nil => cases children' <;> simp [AllAlikeWhereShown]
  | cons child rest ih =>
    cases children' with
    | nil => simp [AllAlikeWhereShown]
    | cons child' rest' => rw [AllAlikeWhereShown, ih, List.forall₂_cons, AlikeAsChild]

theorem alikeWhereShown_mk {layer layer' : Layer} {children children' : List Node} :
    AlikeWhereShown (.mk layer children) (.mk layer' children') ↔
      layer' = layer ∧ List.Forall₂ AlikeAsChild children children' := by
  rw [AlikeWhereShown, allAlikeWhereShown_iff]

/-- Trees are alike by their layers and their children. -/
theorem alikeWhereShown_iff {node node' : Node} :
    AlikeWhereShown node node' ↔
      node'.layer = node.layer ∧ List.Forall₂ AlikeAsChild node.children node'.children := by
  cases node
  cases node'
  exact alikeWhereShown_mk

/-! ### What is asked of a node -/

section Alike

variable {node node' : Node}

theorem AlikeWhereShown.layer (alike : AlikeWhereShown node node') : node'.layer = node.layer :=
  (alikeWhereShown_iff.1 alike).1

theorem AlikeWhereShown.children (alike : AlikeWhereShown node node') :
    List.Forall₂ AlikeAsChild node.children node'.children :=
  (alikeWhereShown_iff.1 alike).2

/-- A node is a spacer by its layer and by whether it has children, hidden ones included. -/
theorem AlikeWhereShown.isSpacer (alike : AlikeWhereShown node node') :
    node'.isSpacer = node.isSpacer := by
  have childless : node'.children.isEmpty = node.children.isEmpty := by
    rw [Bool.eq_iff_iff, List.isEmpty_iff_length_eq_zero, List.isEmpty_iff_length_eq_zero,
      alike.children.length_eq]
  rw [Node.isSpacer, Node.isSpacer, alike.layer, childless]

theorem AlikeWhereShown.isShown (alike : AlikeWhereShown node node') :
    node'.isShown = node.isShown := by
  rw [Node.isShown, Node.isShown, alike.layer, alike.isSpacer]

theorem AlikeAsChild.isMask (alike : AlikeAsChild node node') :
    node'.layer.isMask = node.layer.isMask := by
  rcases alike with ⟨-, -, same⟩ | alike
  · exact same
  · rw [alike.layer]

theorem AlikeAsChild.visible (alike : AlikeAsChild node node') :
    node'.layer.visible = node.layer.visible := by
  rcases alike with ⟨hidden, hidden', -⟩ | alike
  · rw [hidden, hidden']
  · rw [alike.layer]

theorem isShown_of_hidden (hidden : node.layer.visible = false) : node.isShown = false := by
  rw [Node.isShown, hidden, Bool.false_and]

theorem AlikeAsChild.isShown (alike : AlikeAsChild node node') : node'.isShown = node.isShown := by
  rcases alike with ⟨hidden, hidden', -⟩ | alike
  · rw [isShown_of_hidden hidden, isShown_of_hidden hidden']
  · exact alike.isShown

/-- A child that can be seen differs only below. -/
theorem AlikeAsChild.alikeWhereShown (alike : AlikeAsChild node node')
    (visible : node.layer.visible = true) : AlikeWhereShown node node' := by
  rcases alike with ⟨hidden, -, -⟩ | alike
  · rw [hidden] at visible
    cases visible
  · exact alike

end Alike

/-- Children that are shown are alike one by one. -/
theorem forall₂_shown {children children' : List Node}
    (alike : List.Forall₂ AlikeAsChild children children') :
    List.Forall₂ AlikeWhereShown (children.filter isShown) (children'.filter isShown) := by
  induction alike with
  | nil => exact .nil
  | @cons child child' rest rest' first _ ih =>
    by_cases isShown : child.isShown = true
    · have isShown' : child'.isShown = true := first.isShown.trans isShown
      have visible : child.layer.visible = true := (Bool.and_eq_true_iff.1 isShown).1
      rw [List.filter_cons_of_pos isShown, List.filter_cons_of_pos isShown']
      exact .cons (first.alikeWhereShown visible) ih
    · have hidden' : ¬ child'.isShown = true := first.isShown ▸ isShown
      rw [List.filter_cons_of_neg isShown, List.filter_cons_of_neg hidden']
      exact ih

/-! ### Trees that hide nothing -/

/-- Trees are alike only if they are the same, if one of them hides nothing below its root. -/
theorem AlikeWhereShown.eq {node : Node} : ∀ {node' : Node}, AlikeWhereShown node node' →
    (∀ below ∈ everyNodeIn node.children, below.layer.visible = true) → node' = node := by
  induction node using Node.induct with
  | mk layer children ih =>
    rintro ⟨layer', children'⟩ alike visible
    obtain ⟨rfl, each⟩ := alikeWhereShown_mk.1 alike
    rw [children_mk, everyNodeIn_eq_flatMap] at visible
    have same : List.Forall₂ Eq children children' := by
      refine (forall₂_of_mem each).imp fun child child' ⟨mem, alike⟩ => ?_
      have inside : ∀ below ∈ everyNode child, below.layer.visible = true := fun below here =>
        visible below (List.mem_flatMap_of_mem mem here)
      have alikeBelow := alike.alikeWhereShown (inside child (mem_everyNode child))
      exact (ih child mem alikeBelow fun below here =>
        inside below (mem_everyNode_of_below here)).symm
    rw [List.forall₂_eq_eq_eq] at same
    rw [same]

end Node

end SceneMarkup.Scene
