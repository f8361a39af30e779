import SceneMarkup.Proofs.ConversionOutcome
import SceneMarkup.Proofs.Picture.Fetching
import SceneMarkup.Proofs.Scene.Hidden

/-!
# Hidden layers leak nothing

Two selections that differ only inside of nodes that are hidden in both are converted alike. A
caller is handed whole nodes, so it may see what is hidden inside of a picture; but it is asked for
the same pictures in the same order, and if it answers alike, everything else is the same.

* `forall₂_wanted`, `forall₂_requested`: the pictures of alike trees, and those the caller is asked
  for, are alike one by one;
* `fetch_eq_of_answers`: equal answers give equal assets;
* `drawn_eq_of_alike`: nodes that are alike where they are shown look alike in every slot;
* `exportCalls`: the nodes that a conversion asks the caller for, in order;
* `forall₂_exportCalls`, `convert_eq_of_answers`: these are alike one by one, and if they are
  answered alike, the outcome is the same;
* `ConvertedAlike`, `hidden_layers_leak_nothing`: two selections that cannot be told apart;
* `peekingExporter_tells_apart`: but a caller that looks inside of the nodes it is handed can tell.
-/

namespace SceneMarkup

open Scene (Layer Node everyNodeIn)
open Scene.Node (AlikeWhereShown AlikeAsChild forall₂_shown)

/-! ### Pictures -/

namespace Picture

theorem wantedIn_eq_flatMap_filter (children : List Node) :
    wantedIn children = (children.filter Node.isShown).flatMap wanted := by
  rw [wantedIn_eq_flatMap, ← Scene.map_fst_shownIn, List.flatMap_map]

/-- The pictures of trees that are alike where they are shown are alike one by one. -/
theorem forall₂_wanted {node : Node} : ∀ {node' : Node}, AlikeWhereShown node node' →
    List.Forall₂ AlikeWhereShown (wanted node) (wanted node') := by
  induction node using Node.induct with
  | mk layer children ih =>
    rintro ⟨layer', children'⟩ alike
    obtain ⟨rfl, each⟩ := Node.alikeWhereShown_mk.1 alike
    by_cases picture : layer'.isVectorLike = true
    · rw [wanted_of_isVectorLike (by exact picture), wanted_of_isVectorLike (by exact picture)]
      exact .cons alike .nil
    · rw [wanted_of_not_isVectorLike (by exact picture),
        wanted_of_not_isVectorLike (by exact picture), Node.children_mk, Node.children_mk,
        wantedIn_eq_flatMap_filter, wantedIn_eq_flatMap_filter]
      refine List.rel_flatMap (forall₂_of_mem (forall₂_shown each)) ?_
      rintro child child' ⟨mem, alike⟩
      exact ih child (List.mem_filter.1 mem).1 alike

/-- The caller is asked for pictures that are alike one by one. -/
theorem forall₂_requested {root root' : Node} (alike : AlikeWhereShown root root') :
    List.Forall₂ AlikeWhereShown (requested root) (requested root') :=
  List.rel_filter (fun _ _ alike => by simp only [alike.layer]) (forall₂_wanted alike)

/-- What is fetched for pictures that are alike is the same, if the answers are. -/
theorem fetchAll_eq_of_answers {exporter exporter' : Exporter} {nodes nodes' : List Node}
    (alike : List.Forall₂ AlikeWhereShown nodes nodes')
    (answers : (nodes'.filter fun node => node.layer.hasVisiblePaint).map exporter' =
      (nodes.filter fun node => node.layer.hasVisiblePaint).map exporter) (assets : Assets) :
    fetchAll exporter' assets nodes' = fetchAll exporter assets nodes := by
  induction alike generalizing assets with
  | nil => rfl
  | @cons node node' nodes nodes' first _ ih =>
    have sameLayer := first.layer
    have fetched : fetchOne exporter' node' = fetchOne exporter node ∧
        (nodes'.filter fun node => node.layer.hasVisiblePaint).map exporter' =
          (nodes.filter fun node => node.layer.hasVisiblePaint).map exporter := by
      rw [fetchOne, fetchOne, sameLayer]
      by_cases painted : node.layer.hasVisiblePaint = true
      · have painted' : node'.layer.hasVisiblePaint = true := sameLayer ▸ painted
        rw [List.filter_cons_of_pos (by exact painted'), List.filter_cons_of_pos (by exact painted),
          List.map_cons, List.map_cons] at answers
        obtain ⟨answer, later⟩ := List.cons.inj answers
        rw [answer]
        exact ⟨rfl, later⟩
      · have plain' : ¬ node'.layer.hasVisiblePaint = true := sameLayer ▸ painted
        rw [List.filter_cons_of_neg (by exact plain'),
          List.filter_cons_of_neg (by exact painted)] at answers
        rw [if_neg painted, if_neg painted]
        exact ⟨rfl, answers⟩
    rw [fetchAll, fetchAll, List.foldl_cons, List.foldl_cons, fetched.1, sameLayer]
    exact ih fetched.2 _

/-- Equal answers give equal assets. -/
theorem fetch_eq_of_answers {exporter exporter' : Exporter} {root root' : Node}
    (alike : AlikeWhereShown root root')
    (answers : (requested root').map exporter' = (requested root).map exporter) :
    Assets.fetch exporter' root' = Assets.fetch exporter root :=
  fetchAll_eq_of_answers (forall₂_wanted alike) answers {}

end Picture

/-! ### Sketches -/

namespace Emission

variable {options : Options} {assets : Picture.Assets}

/-- Nodes that are alike where they are shown look alike in every slot. -/
theorem drawn_eq_of_alike {node : Node} : ∀ {node' : Node}, AlikeWhereShown node node' → ∀ slot,
    drawn options assets node' slot = drawn options assets node slot := by
  induction node using Node.induct with
  | mk layer children ih =>
    rintro ⟨layer', children'⟩ alike slot
    obtain ⟨rfl, each⟩ := Node.alikeWhereShown_mk.1 alike
    refine layerSketch_congr (fun _ => childSketches_of_looksAlike ?_ layer') (fun _ => rfl) slot
    rw [Node.children_mk, Node.children_mk, members_eq_map, members_eq_map,
      List.forall₂_map_left_iff, List.forall₂_map_right_iff]
    refine (forall₂_of_mem each).imp fun child child' ⟨mem, alike⟩ => ?_
    -- A child that is hidden is drawn in neither container, any other looks alike by induction.
    refine ⟨alike.isMask, alike.visible, fun visible => (alike.alikeWhereShown visible).layer,
      fun slot below => ?_, fun hidden slot below => sketch_of_hidden hidden below⟩
    change sketch options assets child' slot = sketch options assets child slot
    cases visible : child.layer.visible with
    | true =>
      rw [sketch_child _ _ child' below, sketch_child _ _ child below, alike.isShown,
        ih child mem (alike.alikeWhereShown visible) slot]
    | false =>
      rw [sketch_of_hidden visible below, sketch_of_hidden (alike.visible.trans visible) below]

end Emission

/-! ### Conversions -/

open Picture (Assets Exporter Fetching noExporter requested weight)

/-- The nodes that a conversion asks the caller for, in order. -/
def exportCalls (options : Options) (exporter : Exporter) (selection : List Node) : List Node :=
  match selectRoot options selection with
  | .ok root => (Fetching.run exporter (weight root) { stack := [(root, true)] }).asked
  | .error _ => []

theorem exportCalls_of_selectRoot {options : Options} {selection : List Node} {root : Node}
    (selected : selectRoot options selection = .ok root) (exporter : Exporter) :
    exportCalls options exporter selection = requested root := by
  rw [exportCalls, selected]
  exact congrArg Fetching.asked (Fetching.run_root exporter root)

/-- Selections that are alike where they are shown are refused alike, or have roots that are
alike. -/
theorem selectRoot_of_alike (options : Options) {selection selection' : List Node}
    (alike : List.Forall₂ AlikeWhereShown selection selection') :
    (∃ error, selectRoot options selection = .error error ∧
        selectRoot options selection' = .error error) ∨
      ∃ root root', selectRoot options selection = .ok root ∧
        selectRoot options selection' = .ok root' ∧ AlikeWhereShown root root' := by
  unfold selectRoot
  induction alike with
  | nil => exact .inl ⟨_, rfl, rfl⟩
  | @cons node node' selection selection' first _ ih =>
    rw [List.find?_cons, List.find?_cons, first.layer]
    cases node.layer.isContainer with
    | false => exact ih
    | true =>
      simp only [first.layer]
      split
      · exact .inl ⟨_, rfl, rfl⟩
      · exact .inr ⟨node, node', rfl, rfl, first⟩

/-- The caller is asked for pictures that are alike one by one, whatever it answers. -/
theorem forall₂_exportCalls (options : Options) {selection selection' : List Node}
    (alike : List.Forall₂ AlikeWhereShown selection selection') (exporter exporter' : Exporter) :
    List.Forall₂ AlikeWhereShown (exportCalls options exporter selection)
      (exportCalls options exporter' selection') := by
  rcases selectRoot_of_alike options alike with ⟨error, failed, failed'⟩ |
      ⟨root, root', selected, selected', alike⟩
  · rw [exportCalls, exportCalls, failed, failed']
    exact .nil
  · rw [exportCalls_of_selectRoot selected, exportCalls_of_selectRoot selected']
    exact Picture.forall₂_requested alike

/-- Equal answers give the same outcome. -/
theorem convert_eq_of_answers (options : Options) {selection selection' : List Node}
    (alike : List.Forall₂ AlikeWhereShown selection selection') (exporter exporter' : Exporter)
    (answers : (exportCalls options exporter' selection').map exporter' =
      (exportCalls options exporter selection).map exporter) :
    convert options exporter' selection' = convert options exporter selection := by
  rcases selectRoot_of_alike options alike with ⟨error, failed, failed'⟩ |
      ⟨root, root', selected, selected', alike⟩
  · rw [convert, convert, failed, failed']
    simp only [bind, Except.bind]
  · rw [exportCalls_of_selectRoot selected, exportCalls_of_selectRoot selected'] at answers
    have fetched := Picture.fetch_eq_of_answers alike answers
    have drawn : Emission.rootSketch options (Assets.fetch exporter root) root' =
        Emission.rootSketch options (Assets.fetch exporter root) root :=
      Emission.drawn_eq_of_alike alike .root
    rw [convert, convert, selected, selected']
    simp only [bind, Except.bind, fetched, Emission.emitRoot, drawn, alike.layer]

/-- Two selections that a conversion does not tell apart. -/
structure ConvertedAlike (options : Options) (selection selection' : List Node) : Prop where
  /-- The caller is asked for pictures that are alike one by one, whatever it answers. -/
  calls : ∀ exporter exporter',
    List.Forall₂ AlikeWhereShown (exportCalls options exporter selection)
    (exportCalls options exporter' selection')
  /-- If it answers alike, the outcome is the same: the two files, their names, or the error. -/
  outcome : ∀ exporter exporter', (exportCalls options exporter' selection').map exporter' =
      (exportCalls options exporter selection).map exporter →
    convert options exporter' selection' = convert options exporter selection
  /-- So it is for every caller that does not look into hidden layers itself. -/
  blind : ∀ exporter : Exporter, (∀ node node', AlikeWhereShown node node' →
      exporter node' = exporter node) →
    convert options exporter selection' = convert options exporter selection
  /-- If nothing is hidden inside of a picture, every caller is asked for the same nodes, and the
  outcome is the same. -/
  transparent : ∀ exporter, (∀ node ∈ exportCalls options exporter selection,
      ∀ below ∈ everyNodeIn node.children, below.layer.visible = true) →
    exportCalls options exporter selection' = exportCalls options exporter selection ∧
      convert options exporter selection' = convert options exporter selection
  /-- An error is the same whatever the caller answers. -/
  errors : ∀ exporter exporter' error, convert options exporter' selection' = .error error ↔
    convert options exporter selection = .error error

/-- **Hidden layers leak nothing.** Selections that differ only inside of nodes that are hidden in
both, and masks in both or in none, ask the caller for the same pictures and have the same
outcome. -/
theorem hidden_layers_leak_nothing (options : Options) {selection selection' : List Node}
    (alike : List.Forall₂ AlikeWhereShown selection selection') :
    ConvertedAlike options selection selection' := by
  have calls := forall₂_exportCalls options alike
  have outcome := convert_eq_of_answers options alike
  refine ⟨calls, outcome, fun exporter same => ?_, fun exporter visible => ?_, ?_⟩
  · exact outcome exporter exporter (map_eq_of_forall₂ same (calls exporter exporter))
  · have sameCalls : exportCalls options exporter selection' =
        exportCalls options exporter selection := by
      have same := map_eq_of_forall₂ (fun node _ here => here.2.eq (visible node here.1))
        (forall₂_of_mem (calls exporter exporter))
      simpa only [List.map_id'] using same
    exact ⟨sameCalls, outcome exporter exporter (by rw [sameCalls])⟩
  · intro exporter exporter' error
    -- The caller decides nothing about errors, so it may as well be one that has no pictures.
    have blind : convert options noExporter selection' = convert options noExporter selection :=
      outcome noExporter noExporter (map_eq_of_forall₂
        (fun _ _ alike => by rw [noExporter, noExporter, alike.layer])
        (calls noExporter noExporter))
    calc convert options exporter' selection' = .error error
        _ ↔ convert options noExporter selection' = .error error := by
          rw [convert_eq_error_iff, convert_eq_error_iff]
        _ ↔ convert options noExporter selection = .error error := by rw [blind]
        _ ↔ convert options exporter selection = .error error := by
          rw [convert_eq_error_iff, convert_eq_error_iff]

/-- A group with a hidden mask that cannot be placed, and an ellipse after it with a hidden draft
inside. -/
def hiddenMask : Node :=
  .mk { id := "1", kind := .group }
    [.mk { id := "2", kind := .rectangle, isMask := true, visible := false,
           x := .infinite false } [],
      .mk { id := "3", name := "Sun", kind := .ellipse, fills := [{ source := .image }] }
        [.mk { id := "4", name := "Draft", kind := .rectangle, visible := false } []]]

/-- The same group with another hidden mask, which has a child, and with a hidden text inside the
ellipse. -/
def otherHiddenMask : Node :=
  .mk { id := "1", kind := .group }
    [.mk { id := "5", kind := .group, isMask := true, visible := false }
        [.mk { id := "6", kind := .vector } []],
      .mk { id := "3", name := "Sun", kind := .ellipse, fills := [{ source := .image }] }
        [.mk { id := "7", kind := .text { characters := "Moon" }, visible := false } []]]

/-- A caller whose picture of a node shows the name of the node. -/
def nameplates : Exporter := fun node => .ok ("<text>" ++ node.layer.name ++ "</text>").toUTF8

theorem hiddenMask_leaks_nothing :
    List.Forall₂ AlikeWhereShown [hiddenMask] [otherHiddenMask] ∧
      ConvertedAlike {} [hiddenMask] [otherHiddenMask] ∧
      (exportCalls {} nameplates [hiddenMask]).map (fun node => node.layer.id) = ["3"] ∧
      convert {} nameplates [otherHiddenMask] = convert {} nameplates [hiddenMask] := by
  have alike : List.Forall₂ AlikeWhereShown [hiddenMask] [otherHiddenMask] := by
    simp [hiddenMask, otherHiddenMask, Node.alikeWhereShown_mk, AlikeAsChild, Node.BothHidden]
  refine ⟨alike, hidden_layers_leak_nothing {} alike, by decide +kernel, ?_⟩
  exact (hidden_layers_leak_nothing {} alike).blind nameplates fun node node' alike => by
    rw [nameplates, nameplates, alike.layer]

/-- A group with a picture, inside of which a layer is hidden. -/
def pictureHiding (name : String) : Node :=
  .mk { id := "1", kind := .group }
    [.mk { id := "2", kind := .vector, fills := [{ source := .image }] }
      [.mk { id := "3", name, kind := .rectangle, visible := false } []]]

/-- A caller that looks inside: its picture of a node shows the name of the first layer below. -/
def peekingExporter : Exporter := fun node =>
  .ok ("<text>" ++ (node.children.head?.elim "" fun child => child.layer.name) ++ "</text>").toUTF8

/-- **A caller that looks inside can tell.** It is handed the whole of a picture, and what is hidden
there with it: the two groups are alike where they are shown, but it is not asked for the same
nodes, and the documents that it gets are not the same. -/
theorem peekingExporter_tells_apart :
    List.Forall₂ AlikeWhereShown [pictureHiding "Sun"] [pictureHiding "Moon"] ∧
      exportCalls {} peekingExporter [pictureHiding "Moon"] ≠
        exportCalls {} peekingExporter [pictureHiding "Sun"] ∧
      convert {} peekingExporter [pictureHiding "Moon"] ≠
        convert {} peekingExporter [pictureHiding "Sun"] := by
  refine ⟨?_, fun same => ?_, fun same => ?_⟩
  · simp [pictureHiding, Node.alikeWhereShown_mk, AlikeAsChild, Node.BothHidden]
  · have sameNames : ((exportCalls {} peekingExporter [pictureHiding "Moon"]).flatMap
          Node.children).map (fun below => below.layer.name) =
        ((exportCalls {} peekingExporter [pictureHiding "Sun"]).flatMap
          Node.children).map (fun below => below.layer.name) := by
      rw [same]
    exact absurd sameNames (by decide +kernel)
  · have sameDocument :
        (convert {} peekingExporter [pictureHiding "Moon"]).toOption.map Output.document =
          (convert {} peekingExporter [pictureHiding "Sun"]).toOption.map Output.document := by
      rw [same]
    exact absurd sameDocument (by decide +kernel)

end SceneMarkup
