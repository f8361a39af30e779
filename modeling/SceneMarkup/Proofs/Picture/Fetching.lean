import Mathlib.Algebra.GroupWithZero.Nat
import Std.Data.TreeMap.Lemmas
import SceneMarkup.Picture.Asset
import SceneMarkup.Proofs.Scene.Visits

/-!
# Fetching pictures

Pictures are fetched before a tree is emitted, by a walk of its own that takes the next node from a
stack.

* `pictureVisits`, `requestedVisits`: the pictures of a tree, and those the caller is asked for,
  each with its address;
* `Fetching`, `Fetching.step`, `Fetching.run`: the stack, what the caller was asked for, and the
  assets;
* `run_eq`, `run_root`: the stack meets the pictures of a tree in document order;
* `mem_fetch`, `find_fetch`: something stands for every picture of a tree, and it is what was
  fetched for it, if no other node has its identifier.
-/

namespace SceneMarkup.Picture

open Scene (Layer Node Visit visitsAt visitsAt_mk shownIn everyNode)

/-- The assets after some nodes more. -/
def fetchAll (exporter : Exporter) (assets : Assets) (nodes : List Node) : Assets :=
  nodes.foldl (fun assets node => assets.insert node.layer.id (fetchOne exporter node)) assets

/-! ### The nodes that are shown as pictures -/

theorem wantedIn_eq_flatMap (children : List Node) :
    wantedIn children = (shownIn children).flatMap fun child => wanted child.1 := by
  rw [← List.flatMap_map Prod.fst wanted, Scene.map_fst_shownIn]
  induction children with
  | nil => rfl
  | cons child rest ih =>
    rw [wantedIn, ih]
    by_cases isShown : child.isShown = true
    · rw [List.filter_cons_of_pos isShown, List.flatMap_cons, ← Node.isShown, if_pos isShown]
    · rw [List.filter_cons_of_neg isShown, ← Node.isShown, if_neg isShown, List.nil_append]

theorem wanted_of_isVectorLike {node : Node} (picture : node.layer.isVectorLike = true) :
    wanted node = [node] := by
  cases node with
  | mk layer children => rw [wanted, if_pos (by exact picture)]

theorem wanted_of_not_isVectorLike {node : Node} (other : ¬ node.layer.isVectorLike = true) :
    wanted node = wantedIn node.children := by
  cases node with
  | mk layer children => rw [wanted, if_neg (by exact other), Node.children_mk]

/-- The pictures of a tree, each with its address: of the visits of a walk that goes below all nodes
but pictures, those of pictures. -/
def pictureVisits (address : List Nat) (node : Node) : List Visit :=
  (visitsAt (fun layer => !layer.isVectorLike) address node).filter fun visit =>
    visit.2.layer.isVectorLike

/-- The pictures of a tree are met in document order. -/
theorem map_snd_pictureVisits (node : Node) : ∀ address,
    (pictureVisits address node).map Prod.snd = wanted node := by
  induction node using Node.induct with
  | mk layer children ih =>
    intro address
    rw [pictureVisits, visitsAt_mk]
    by_cases picture : layer.isVectorLike = true
    · have itself : wanted (.mk layer children) = [.mk layer children] :=
        wanted_of_isVectorLike picture
      rw [List.filter_cons_of_pos (by exact picture), picture, itself]
      rfl
    · have below : wanted (.mk layer children) = wantedIn children :=
        wanted_of_not_isVectorLike picture
      rw [List.filter_cons_of_neg (by exact picture), below, wantedIn_eq_flatMap]
      rw [Bool.not_eq_true] at picture
      rw [picture, Bool.not_false, if_pos rfl, List.filter_flatMap, List.map_flatMap]
      exact List.flatMap_congr fun child mem =>
        ih child.1 (Scene.mem_children_of_mem_shownIn mem) (child.2 :: address)

/-- The pictures that the caller is asked for, each with its address. -/
def requestedVisits (root : Node) : List Visit :=
  (pictureVisits [] root).filter fun visit => visit.2.layer.hasVisiblePaint

theorem map_snd_requestedVisits (root : Node) :
    (requestedVisits root).map Prod.snd = requested root := by
  rw [requested, ← map_snd_pictureVisits root [], List.filter_map]
  rfl

/-- No picture is asked for twice. -/
theorem nodup_requestedVisits (root : Node) : ((requestedVisits root).map Prod.fst).Nodup := by
  have sublist : (requestedVisits root).Sublist
      (visitsAt (fun layer => !layer.isVectorLike) [] root) :=
    List.filter_sublist.trans List.filter_sublist
  exact (sublist.map Prod.fst).nodup (Scene.nodup_addresses _ root [])

/-! ### The stack -/

/-- The nodes that are left to look at, the next one first and marked if it is the root, the nodes
that the caller was asked for, the first one first, and what stands for pictures so far. -/
structure Fetching where
  stack : List (Node × Bool)
  asked : List Node := []
  assets : Assets := {}

namespace Fetching

/-- Looks at the next node: a picture is fetched, of another node the children are next. -/
def step (exporter : Exporter) (state : Fetching) : Fetching :=
  match state.stack with
  | [] => state
  | (node, isRoot) :: rest =>
    if !isRoot && !node.isShown then { state with stack := rest }
    else if node.layer.isVectorLike then
      { stack := rest
        asked := if node.layer.hasVisiblePaint then state.asked ++ [node] else state.asked
        assets := state.assets.insert node.layer.id (fetchOne exporter node) }
    else { state with stack := (node.children.map fun child => (child, false)) ++ rest }

/-- Some number of steps. -/
def run (exporter : Exporter) : Nat → Fetching → Fetching
  | 0, state => state
  | steps + 1, state => run exporter steps (step exporter state)

end Fetching

mutual

/-- How many nodes are at and below a node. -/
def weight : Node → Nat
  | .mk _ children => weightIn children + 1

/-- How many nodes are at and below some nodes. -/
def weightIn : List Node → Nat
  | [] => 0
  | child :: rest => weight child + weightIn rest

end

theorem weightIn_eq_sum (nodes : List Node) : weightIn nodes = (nodes.map weight).sum := by
  induction nodes with
  | nil => rfl
  | cons node rest ih => rw [weightIn, ih, List.map_cons, List.sum_cons]

namespace Fetching

/-- The nodes that are shown as pictures at and below an item of the stack. -/
def entered (item : Node × Bool) : List Node :=
  if !item.2 && !item.1.isShown then [] else wanted item.1

/-- How many steps a stack needs at most. -/
def need (stack : List (Node × Bool)) : Nat := (stack.map fun item => weight item.1).sum

/-- What a stack that is taken to its end leaves. -/
def final (exporter : Exporter) (state : Fetching) : Fetching where
  stack := []
  asked := state.asked ++
    (state.stack.flatMap entered).filter fun node => node.layer.hasVisiblePaint
  assets := fetchAll exporter state.assets (state.stack.flatMap entered)

theorem flatMap_entered_children (children : List Node) :
    (children.map fun child => (child, false)).flatMap entered = wantedIn children := by
  induction children with
  | nil => rfl
  | cons child rest ih =>
    rw [List.map_cons, List.flatMap_cons, ih, wantedIn, ← Node.isShown, entered]
    cases child.isShown <;> rfl

/-- A step changes nothing about what is left in the end. -/
theorem final_step (exporter : Exporter) (state : Fetching) :
    final exporter (step exporter state) = final exporter state := by
  rcases state with ⟨_ | ⟨⟨node, isRoot⟩, rest⟩, asked, assets⟩
  · rfl
  · rw [step]
    by_cases skipped : (!isRoot && !node.isShown) = true
    · have nothing : entered (node, isRoot) = [] := if_pos skipped
      simp only [skipped, if_true, final, List.flatMap_cons, nothing, List.nil_append]
    · have everything : entered (node, isRoot) = wanted node := if_neg skipped
      by_cases picture : node.layer.isVectorLike = true
      · rw [wanted_of_isVectorLike picture] at everything
        simp only [skipped, picture, if_true, final, List.flatMap_cons, everything,
          List.singleton_append, fetchAll, List.foldl_cons, List.filter_cons]
        cases node.layer.hasVisiblePaint <;> simp
      · rw [wanted_of_not_isVectorLike picture] at everything
        simp only [skipped, picture, Bool.false_eq_true, if_false, final, List.flatMap_cons,
          List.flatMap_append, everything, flatMap_entered_children]

theorem weight_eq (node : Node) : weight node = (node.children.map weight).sum + 1 := by
  cases node with
  | mk layer children => rw [weight, weightIn_eq_sum, Node.children_mk]

/-- A step leaves less to do. -/
theorem need_step_lt (exporter : Exporter) {state : Fetching} (left : state.stack ≠ []) :
    need (step exporter state).stack < need state.stack := by
  rcases state with ⟨_ | ⟨⟨node, isRoot⟩, rest⟩, asked, assets⟩
  · exact absurd rfl left
  · have positive := weight_eq node
    rw [step]
    simp only [need, List.map_cons, List.sum_cons]
    split
    · simp only
      omega
    · split
      · simp only
        omega
      · simp only [List.map_append, List.map_map, List.sum_append]
        have same : (node.children.map ((fun item : Node × Bool => weight item.1) ∘
            fun child => (child, false))) = node.children.map weight := rfl
        rw [same]
        omega

/-- **The stack is taken to its end, and meets the pictures in document order.** -/
theorem run_eq (exporter : Exporter) (steps : Nat) : ∀ state : Fetching, need state.stack ≤ steps →
    run exporter steps state = final exporter state := by
  -- A step changes nothing about the end and leaves less to do, so the steps are enough.
  induction steps with
  | zero =>
    rintro ⟨_ | ⟨⟨node, isRoot⟩, rest⟩, asked, assets⟩ enough
    · simp [run, final, fetchAll]
    · simp only [need, List.map_cons, List.sum_cons] at enough
      have positive := weight_eq node
      omega
  | succ steps ih =>
    intro state enough
    rw [run, ← final_step]
    refine ih _ ?_
    by_cases left : state.stack = []
    · have done : step exporter state = state := by rw [step, left]
      rw [done, left]
      exact Nat.zero_le steps
    · have less := need_step_lt exporter left
      omega

/-- The pictures of a tree are fetched by a stack with its root. -/
theorem run_root (exporter : Exporter) (root : Node) :
    run exporter (weight root) { stack := [(root, true)] } =
      { stack := [], asked := requested root, assets := Assets.fetch exporter root } := by
  rw [run_eq exporter _ _ (by simp [need])]
  simp [final, entered, requested, fetchAll, Assets.fetch]

end Fetching

/-! ### What stands for pictures -/

variable (exporter : Exporter)

theorem fetch_eq_fetchAll (root : Node) :
    Assets.fetch exporter root = fetchAll exporter {} (wanted root) :=
  rfl

theorem getElem?_insert (assets : Assets) (id other : String) (asset : Asset) :
    (Std.TreeMap.insert assets id asset)[other]? =
      if id = other then some asset else assets[other]? := by
  rw [Std.TreeMap.getElem?_insert]
  simp only [Std.LawfulEqCmp.compare_eq_iff_eq]

/-- Other nodes change nothing about the asset of an identifier. -/
theorem getElem?_fetchAll_of_not_mem {nodes : List Node} {id : String}
    (other : id ∉ nodes.map fun node => node.layer.id) (assets : Assets) :
    (fetchAll exporter assets nodes)[id]? = assets[id]? := by
  induction nodes generalizing assets with
  | nil => rfl
  | cons node rest ih =>
    rw [List.map_cons, List.mem_cons, not_or] at other
    rw [fetchAll, List.foldl_cons, ← fetchAll, ih other.2, getElem?_insert,
      if_neg (Ne.symm other.1)]

/-- What stands for a node is what was fetched for it, if no other node has its identifier. -/
theorem getElem?_fetchAll {nodes : List Node}
    (distinct : (nodes.map fun node => node.layer.id).Nodup) {node : Node} (mem : node ∈ nodes)
    (assets : Assets) :
    (fetchAll exporter assets nodes)[node.layer.id]? = some (fetchOne exporter node) := by
  induction nodes generalizing assets with
  | nil => cases mem
  | cons first rest ih =>
    rw [List.map_cons, List.nodup_cons] at distinct
    rw [fetchAll, List.foldl_cons, ← fetchAll]
    rcases List.mem_cons.1 mem with rfl | later
    · -- No later node has the identifier, so none replaces what stands for the first.
      rw [getElem?_fetchAll_of_not_mem exporter distinct.1, getElem?_insert, if_pos rfl]
    · exact ih distinct.2 later _

/-- Something stands for every node. -/
theorem mem_fetchAll {nodes : List Node} {id : String}
    (known : id ∈ nodes.map fun node => node.layer.id) (assets : Assets) :
    id ∈ fetchAll exporter assets nodes := by
  induction nodes generalizing assets with
  | nil => cases known
  | cons first rest ih =>
    rw [fetchAll, List.foldl_cons, ← fetchAll]
    by_cases later : id ∈ rest.map fun node => node.layer.id
    · exact ih later _
    · rw [List.map_cons, List.mem_cons] at known
      obtain rfl : id = first.layer.id := known.resolve_right later
      rw [Std.TreeMap.mem_iff_isSome_getElem?, getElem?_fetchAll_of_not_mem exporter later,
        getElem?_insert, if_pos rfl]
      rfl

theorem wanted_sublist_everyNode (root : Node) : (wanted root).Sublist (everyNode root) := by
  rw [← map_snd_pictureVisits root []]
  have sublist :
      (pictureVisits [] root).Sublist (visitsAt (fun layer => !layer.isVectorLike) [] root) :=
    List.filter_sublist
  exact (sublist.map Prod.snd).trans (Scene.visitsAt_sublist_everyNode _ root [])

/-- Something stands for every picture of a tree. -/
theorem mem_fetch {root node : Node} (mem : node ∈ wanted root) :
    node.layer.id ∈ Assets.fetch exporter root :=
  mem_fetchAll exporter (List.mem_map_of_mem mem) {}

/-- If no two nodes of a tree share an identifier, what was fetched for a picture stands for it. -/
theorem find_fetch {root : Node}
    (distinct : ((everyNode root).map fun node => node.layer.id).Nodup) {node : Node}
    (mem : node ∈ wanted root) :
    (Assets.fetch exporter root).find node.layer.id = fetchOne exporter node := by
  have distinctWanted :=
    ((wanted_sublist_everyNode root).map fun node => node.layer.id).nodup distinct
  rw [Assets.find, Std.TreeMap.getD_eq_getD_getElem?, fetch_eq_fetchAll,
    getElem?_fetchAll exporter distinctWanted mem, Option.getD_some]

/-- The text that the caller answers with for a node, if it is asked, and answers with text. -/
def exportedText? (node : Node) : Option String :=
  if node.layer.hasVisiblePaint then
    match exporter node with
    | .ok bytes => String.fromUTF8? bytes
    | .error _ => none
  else none

/-- What is fetched for a node: the text with names of its own, or a placeholder. -/
theorem fetchOne_eq (node : Node) :
    fetchOne exporter node =
      match exportedText? exporter node with
      | some text => .svg (inlined text (Naming.slug node.layer.id))
      | none => .placeholder := by
  rw [fetchOne, exportedText?]
  by_cases painted : node.layer.hasVisiblePaint = true
  · rw [if_pos painted, if_pos painted]
    cases exporter node with
    | error reason => rfl
    | ok bytes =>
      simp only [bind, Except.bind, decode]
      cases String.fromUTF8? bytes <;> rfl
  · rw [if_neg painted, if_neg painted]

end SceneMarkup.Picture
