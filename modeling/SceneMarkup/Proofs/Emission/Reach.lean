import SceneMarkup.Proofs.Emission.Pieces
import SceneMarkup.Proofs.Typography.Content

/-!
# What emission reaches

Emission goes below frames and groups that can be placed, and nowhere else.

* `reached`: the nodes at and below a root that emission reaches, in document order;
* `collect_drawn`: what is collected from a tree is what each node on the way of emission adds;
* `faults_drawn`: the faults of a tree are the nodes that cannot be placed, of those on the way of a
  walk that stops at them;
* `head?_faults_rootSketch`: the first of them is the first node that is reached and cannot be
  placed.
-/

namespace SceneMarkup.Emission

open Scene (Layer Node Visit visitsAt visitsAt_mk shownIn)
open Picture (Asset Assets)
open Position (Container)

variable {options : Options} {assets : Assets}

/-- A node that cannot be placed. -/
def isFaulty (layer : Layer) : Bool := !layer.hasFiniteGeometry

/-- The nodes that emission reaches: the root, and below frames and groups the children that are
shown. -/
def reached (root : Node) : List Node := (visitsAt Layer.isContainer [] root).map Prod.snd

/-- The walk that emission takes: no further below what cannot be placed. -/
def emissionVisits (address : List Nat) (node : Node) : List Visit :=
  visitsAt (fun layer => layer.isContainer && !isFaulty layer) address node

theorem emissionVisits_mk (address : List Nat) (layer : Layer) (children : List Node) :
    emissionVisits address (.mk layer children) =
      (address, .mk layer children) ::
        if layer.isContainer && !isFaulty layer then
          (shownIn children).flatMap fun child => emissionVisits (child.2 :: address) child.1
        else [] := by
  rw [emissionVisits, visitsAt_mk]
  rfl

/-- If everything that is reached can be placed, emission stops nowhere. -/
theorem emissionVisits_eq {root : Node}
    (sound : ∀ node ∈ reached root, isFaulty node.layer = false) :
    emissionVisits [] root = visitsAt Layer.isContainer [] root := by
  refine Scene.visitsAt_congr root [] fun visit mem => ?_
  rw [sound visit.2 (List.mem_map_of_mem mem), Bool.not_false, Bool.and_true]

theorem isContainer_iff {layer : Layer} :
    layer.isContainer = true ↔ ∃ container, Container.ofLayer? layer = some container := by
  unfold Layer.isContainer Container.ofLayer?
  cases layer.kind <;> simp

/-- What cannot be placed is a fault. -/
theorem drawn_of_isFaulty {layer : Layer} (faulty : isFaulty layer = true) (children : List Node)
    (slot : Slot) : drawn options assets (.mk layer children) slot = .fault layer.id := by
  rw [isFaulty, Bool.not_eq_true'] at faulty
  rw [drawn, Node.layer_mk, layerSketch, faulty]
  rfl

/-- A frame or a group that can be placed is an element around its children. -/
theorem drawn_of_isContainer {layer : Layer} (sound : isFaulty layer = false)
    (container : layer.isContainer = true) (children : List Node) (slot : Slot) :
    drawn options assets (.mk layer children) slot =
      containerSketch options layer (members options assets children) slot := by
  rw [isFaulty, Bool.not_eq_false'] at sound
  rw [drawn, Node.layer_mk, Node.children_mk, layerSketch, sound]
  unfold Layer.isContainer at container
  cases kind : layer.kind <;> simp_all

/-- A picture that can be placed. -/
theorem drawn_of_isVectorLike {layer : Layer} (sound : isFaulty layer = false)
    (picture : layer.isVectorLike = true) (children : List Node) (slot : Slot) :
    drawn options assets (.mk layer children) slot =
      pictureSketch options layer (assets.find layer.id) slot := by
  rw [isFaulty, Bool.not_eq_false'] at sound
  rw [drawn, Node.layer_mk, layerSketch, sound]
  unfold Layer.isVectorLike at picture
  cases kind : layer.kind <;> simp_all

/-- What is collected from a tree is what each node on the way of emission adds, in order, if the
box of a mask adds nothing. -/
theorem collect_drawn {α : Type} (collect : Sketch → List α) (own : Layer → Option α)
    (fault : ∀ layer, isFaulty layer = true → collect (.fault layer.id) = (own layer).toList)
    (container : ∀ layer inside slot, isFaulty layer = false → layer.isContainer = true →
      collect (containerSketch options layer inside slot) =
        (own layer).toList ++ (childSketches options layer inside).flatMap collect)
    (leaf : ∀ layer children slot, isFaulty layer = false → layer.isContainer = false →
      collect (drawn options assets (.mk layer children) slot) = (own layer).toList)
    (masked : ∀ clip style inside, collect (.masked clip style inside) = inside.flatMap collect)
    (node : Node) : ∀ slot address,
      collect (drawn options assets node slot) =
        (emissionVisits address node).filterMap fun visit => own visit.2.layer := by
  induction node using Node.induct with
  | mk layer children ih =>
    intro slot address
    rw [List.filterMap_eq_flatMap_toList, emissionVisits_mk, List.flatMap_cons, Node.layer_mk]
    by_cases faulty : isFaulty layer = true
    · rw [drawn_of_isFaulty faulty, fault layer faulty, faulty, Bool.not_true, Bool.and_false]
      exact (List.append_nil _).symm
    · rw [Bool.not_eq_true] at faulty
      rw [faulty, Bool.not_false, Bool.and_true]
      by_cases goes : layer.isContainer = true
      · obtain ⟨around, isContainer⟩ := isContainer_iff.1 goes
        rw [drawn_of_isContainer faulty goes, container layer _ slot faulty goes, if_pos goes,
          List.flatMap_assoc]
        congr 1
        refine flatMap_childSketches isContainer (fun child mem slot => ?_) masked
        rw [← List.filterMap_eq_flatMap_toList]
        exact ih child.1 (Scene.mem_children_of_mem_shownIn mem) slot (child.2 :: address)
      · rw [if_neg goes, leaf layer children slot faulty (Bool.eq_false_iff.2 goes)]
        exact (List.append_nil _).symm

theorem faults_textSketch (layer : Layer) (text : Scene.TextStyle) (slot : Slot) :
    (textSketch options layer text slot).faults = [] := by
  rw [textSketch, Sketch.faults, Sketch.faultsIn_eq_flatMap, List.flatMap_eq_nil_iff]
  exact fun sketch mem => (Typography.isContent_textContent options text sketch mem).faults

theorem faults_pictureSketch (layer : Layer) (asset : Asset) (slot : Slot) :
    (pictureSketch options layer asset slot).faults = [] := by
  rw [pictureSketch]
  split <;> rfl

/-- What is no frame or group has no faults in it, if it can be placed. -/
theorem faults_of_leaf {layer : Layer} (sound : isFaulty layer = false)
    (leaf : layer.isContainer = false) (children : List Node) (slot : Slot) :
    (drawn options assets (.mk layer children) slot).faults = [] := by
  rw [isFaulty, Bool.not_eq_false'] at sound
  rw [drawn, Node.layer_mk, layerSketch, sound]
  unfold Layer.isContainer at leaf
  cases kind : layer.kind with
  | frame frame => simp [kind] at leaf
  | group => simp [kind] at leaf
  | text text => exact faults_textSketch layer text slot
  | rectangle => rfl
  | ellipse => exact faults_pictureSketch layer _ slot
  | vector => exact faults_pictureSketch layer _ slot

/-- The faults of a tree are the nodes on the way of emission that cannot be placed. -/
theorem faults_drawn (node : Node) (slot : Slot) (address : List Nat) :
    (drawn options assets node slot).faults =
      ((emissionVisits address node).filter fun visit => isFaulty visit.2.layer).map
        fun visit => visit.2.layer.id := by
  have collected : (drawn options assets node slot).faults = (emissionVisits address node).filterMap
      fun visit => if isFaulty visit.2.layer then some visit.2.layer.id else none :=
    collect_drawn Sketch.faults (fun layer => if isFaulty layer then some layer.id else none)
      (fun layer faulty => by rw [if_pos faulty]; rfl)
      (fun layer inside slot sound _ => by
        rw [containerSketch, Sketch.faults, Sketch.faultsIn_eq_flatMap, sound]
        rfl)
      (fun layer children slot sound goes => by
        rw [faults_of_leaf sound goes, sound]
        rfl)
      (fun clip style inside => by rw [Sketch.faults, Sketch.faultsIn_eq_flatMap])
      node slot address
  rw [collected, ← List.filterMap_eq_filter, List.map_filterMap]
  refine List.filterMap_congr fun visit _ => ?_
  cases faulty : isFaulty visit.2.layer <;> simp [faulty, Option.guard]

/-- The first fault of a tree is the first node that is reached and cannot be placed. -/
theorem head?_faults_rootSketch (root : Node) :
    (rootSketch options assets root).faults.head? =
      ((reached root).find? fun node => isFaulty node.layer).map fun node => node.layer.id := by
  rw [rootSketch_eq_drawn, faults_drawn root .root [], List.head?_map, List.head?_filter, reached,
    List.find?_map, emissionVisits, Scene.find?_visitsAt_stopped isFaulty root [], Option.map_map]
  rfl

/-- A tree has no faults if everything that is reached can be placed. -/
theorem faults_rootSketch_eq_nil_iff (root : Node) :
    (rootSketch options assets root).faults = [] ↔
      ∀ node ∈ reached root, isFaulty node.layer = false := by
  rw [← List.head?_eq_none_iff, head?_faults_rootSketch, Option.map_eq_none_iff, List.find?_eq_none]
  simp only [Bool.not_eq_true]

end SceneMarkup.Emission
