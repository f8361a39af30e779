import SceneMarkup.Proofs.Emission.Pictures

/-!
# Which exports are pasted

Fetching goes below every node but pictures, emission below frames and groups alone. So the caller
may be asked for a picture below a rectangle or a text, and what it answers is pasted nowhere.

* `InsideContainers`: only frames and groups lie above an address;
* `mem_emittedPictures_iff`: of the pictures of a tree, emission meets those inside containers;
* `drawn_eq_of_agree`, `emitRoot_eq_of_agree`: what stands for the others changes nothing;
* `exports_pasted_inside_containers`: which of the pictures that the caller is asked for are pasted;
* `export_below_rectangle_not_pasted`: one that is not.
-/

namespace SceneMarkup.Emission

open Scene (Layer Node Visit visitsAt visitsAt_mk shownIn everyNode)
open Picture (Asset Assets Exporter requestedVisits requested pictureVisits)

variable {options : Options} {assets assets' : Assets}

/-- Everything that fetching meets on the way to an address is a frame or a group. -/
def InsideContainers (root : Node) (address : List Nat) : Prop :=
  ∀ above ∈ visitsAt (fun layer => !layer.isVectorLike) [] root,
    above.1 <:+ address → above.1 ≠ address → above.2.layer.isContainer = true

/-- Emission meets the pictures of a tree that lie inside containers, and no others. -/
theorem mem_emittedPictures_iff {root : Node} {visit : Visit} :
    visit ∈ emittedPictures root ↔
      visit ∈ pictureVisits [] root ∧ InsideContainers root visit.1 := by
  rw [emittedPictures, pictureVisits, List.mem_filter, List.mem_filter,
    Scene.mem_visitsAt_iff fun layer => not_isVectorLike_of_isContainer]
  exact and_right_comm

/-! ### What stands for other pictures -/

/-- What a node becomes depends on the assets of the pictures that emission meets alone. -/
theorem drawn_eq_of_agree (node : Node) : ∀ slot address,
    (∀ visit ∈ visitsAt Layer.isContainer address node, visit.2.layer.isVectorLike = true →
      assets'.find visit.2.layer.id = assets.find visit.2.layer.id) →
    drawn options assets' node slot = drawn options assets node slot := by
  induction node using Node.induct with
  | mk layer children ih =>
    intro slot address agree
    rw [visitsAt_mk] at agree
    obtain ⟨here, below⟩ := List.forall_mem_cons.1 agree
    replace here : layer.isVectorLike = true → assets'.find layer.id = assets.find layer.id := here
    refine layerSketch_congr (fun goes => ?_) here slot
    rw [if_pos (by exact goes)] at below
    refine childSketches_congr (fun child mem slot => ?_) layer
    refine ih child.1 (Scene.mem_children_of_mem_shownIn mem) slot (child.2 :: address) ?_
    exact fun visit met => below visit (List.mem_flatMap_of_mem mem met)

/-- If no two nodes of a tree share an identifier, the answers for pictures that emission does not
meet change nothing. -/
theorem emitRoot_eq_of_agree {exporter exporter' : Exporter} {root : Node}
    (distinct : ((everyNode root).map fun node => node.layer.id).Nodup)
    (agree : ∀ visit ∈ emittedPictures root, exporter' visit.2 = exporter visit.2) (sheet : Sheet) :
    emitRoot options (Assets.fetch exporter' root) sheet root =
      emitRoot options (Assets.fetch exporter root) sheet root := by
  have same : rootSketch options (Assets.fetch exporter' root) root =
      rootSketch options (Assets.fetch exporter root) root := by
    refine drawn_eq_of_agree root .root [] fun visit met picture => ?_
    have shown : visit ∈ emittedPictures root := List.mem_filter.2 ⟨met, picture⟩
    have wanted := mem_wanted_of_mem_emittedPictures shown
    rw [Picture.find_fetch exporter' distinct wanted, Picture.find_fetch exporter distinct wanted,
      Picture.fetchOne, Picture.fetchOne, agree visit shown]
  rw [emitRoot, same, emitRoot]

/-! ### Which exports are pasted -/

/-- Which of the pictures that the caller is asked for are pasted. -/
structure PastesInsideContainers (options : Options) (exporter : Exporter)
    (root : Node) : Prop where
  /-- The nodes that the caller is asked for, each with its address. -/
  asked : (Picture.Fetching.run exporter (Picture.weight root) { stack := [(root, true)] }).asked =
    (requestedVisits root).map Prod.snd
  /-- Emission, if it does not fail, meets such a node exactly if only frames and groups lie above
  it. -/
  emitted_iff : ∀ visit ∈ requestedVisits root,
    visit ∈ emittedPictures root ↔ InsideContainers root visit.1
  /-- If emission does not fail, every picture that it meets has an element of its own, in order,
  and the pictures in the tree are what stands for those. -/
  shown : ∀ before tree, (emitRoot options (Assets.fetch exporter root)
      (sheetAfter options (Assets.fetch exporter root) {} before) root).1 = .ok tree →
    List.SublistForall₂ (fun visit element =>
        ∃ slot, (drawn options (Assets.fetch exporter root) visit.2 slot).NamedAs element)
      (emittedPictures root) tree.subtrees ∧
    tree.pictures = (emittedPictures root).filterMap fun visit =>
      pictureText? ((Assets.fetch exporter root).find visit.2.layer.id)
  /-- What the caller answers for the others changes nothing, if no two nodes share an
  identifier. -/
  others : ((everyNode root).map fun node => node.layer.id).Nodup → ∀ exporter' : Exporter,
    (∀ visit ∈ emittedPictures root, exporter' visit.2 = exporter visit.2) → ∀ sheet,
      emitRoot options (Assets.fetch exporter' root) sheet root =
        emitRoot options (Assets.fetch exporter root) sheet root

/-- **What the caller is asked for is pasted exactly if only frames and groups lie above it.** -/
theorem exports_pasted_inside_containers (options : Options) (exporter : Exporter) (root : Node) :
    PastesInsideContainers options exporter root where
  asked := by rw [Picture.Fetching.run_root, Picture.map_snd_requestedVisits]
  emitted_iff := by
    intro visit mem
    rw [mem_emittedPictures_iff, and_iff_right (List.mem_filter.1 mem).1]
  shown := by
    intro before tree emitted
    have faithful :=
      (faithful_sheetAfter options (Assets.fetch exporter root) faithful_start before).1
    have named := namedDuring_emitRoot options (Assets.fetch exporter root) faithful emitted []
    have sound := (faults_rootSketch_eq_nil_iff root).1
      ((Sketch.exists_name_ok_iff _ _).1 ⟨tree, emitted⟩)
    refine ⟨sublistForall₂_imp (sublistForall₂_filter (sublistForall₂_subtrees sound named) _) ?_,
      ?_⟩
    · rintro visit - element ⟨slot, -, here⟩
      exact ⟨slot, here.namedAs⟩
    · rw [named.pictures, pictures_rootSketch sound]
  others := fun distinct _ agree => emitRoot_eq_of_agree distinct agree

/-- A black shape in a rectangle, and one beside it. -/
def shapeInRectangle : Node :=
  let black : Scene.Paint := .solid { red := 0, green := 0, blue := 0 }
  .mk { id := "5:1", kind := .group, width := 20, height := 20 }
    [.mk { id := "5:2", kind := .rectangle, width := 20, height := 20 }
      [.mk { id := "5:3", kind := .vector, width := 10, height := 10, fills := [black] } []],
      .mk { id := "5:4", kind := .vector, width := 10, height := 10, fills := [black] } []]

/-- A caller that has a picture of everything. -/
def eagerExporter : Exporter := fun _ => .ok "<svg/>".toUTF8

/-- The caller is asked for both shapes, and answers for both, but only the one beside the rectangle
is pasted: emission does not go below the rectangle. -/
theorem export_below_rectangle_not_pasted :
    (∃ visit ∈ requestedVisits shapeInRectangle, visit.1 = [0, 0] ∧
        visit ∉ emittedPictures shapeInRectangle) ∧
      ∃ tree, (emitRoot {} (Assets.fetch eagerExporter shapeInRectangle) {} shapeInRectangle).1 =
          .ok tree ∧ tree.pictures = ["<svg/>"] := by
  constructor
  · have asked : [0, 0] ∈ (requestedVisits shapeInRectangle).map Prod.fst := by decide +kernel
    have emitted : [0, 0] ∉ (emittedPictures shapeInRectangle).map Prod.fst := by decide +kernel
    obtain ⟨visit, mem, address⟩ := List.mem_map.1 asked
    exact ⟨visit, mem, address, fun met => emitted (address ▸ List.mem_map_of_mem met)⟩
  · have shows : (match (emitRoot {} (Assets.fetch eagerExporter shapeInRectangle) {}
        shapeInRectangle).1 with
        | .ok tree => tree.pictures
        | .error _ => []) = ["<svg/>"] := by
      decide +kernel
    split at shows
    · next tree emitted => exact ⟨tree, emitted, shows⟩
    · cases shows

end SceneMarkup.Emission
