import SceneMarkup.Proofs.Css.Cascade
import SceneMarkup.Proofs.Emission.History
import SceneMarkup.Proofs.Emission.Parts
import SceneMarkup.Proofs.Picture.Fetching

/-!
# The pictures of a tree

* `Markup.pictures`: the pictures in a tree, in document order;
* `pictures_drawn`: they are those of the pictures that emission meets;
* `Markup.HasPlaceholder`: some class of some box in a tree paints the color of placeholders, and
  nothing else, behind it;
* `hasPlaceholder_of_namedDuring`: so it is for a picture that could not be had;
* `emittedPictures`: the pictures that emission meets, each with its address.
-/

namespace SceneMarkup

open Css (Declaration declares lastOfEach)

namespace Markup

/-- The picture of an element. -/
def picture? : Markup → Option String
  | element head _ => head.picture
  | text _ | lineBreak => none

/-- The classes of an element. -/
def classes : Markup → List String
  | element head _ => head.classes
  | text _ | lineBreak => []

/-- The pictures in a tree, in document order. -/
def pictures (markup : Markup) : List String := markup.subtrees.filterMap picture?

/-- Some class of some element in a tree has a rule whose background is a color. -/
def HasPlaceholder (color : String) (registry : Registry) (markup : Markup) : Prop :=
  ∃ box ∈ markup.subtrees, ∃ className ∈ box.classes, ∃ declarations,
    registry.ruleText? className = some (signature declarations) ∧
      (⟨"background", color⟩ : Declaration) ∈ declarations ∧
      ∀ d ∈ declarations, d.property = "background" → d.value = color

end Markup

namespace Sketch

/-- The picture of an element whose classes have no names yet. -/
def picture? : Sketch → Option String
  | element head _ => head.picture
  | masked _ _ _ | text _ | lineBreak | fault _ => none

/-- The pictures in a sketch, in document order. -/
def pictures (sketch : Sketch) : List String := sketch.parts.filterMap picture?

theorem pictures_element (head : SketchHead) (children : List Sketch) :
    (element head children).pictures = head.picture.toList ++ children.flatMap pictures := by
  rw [pictures, parts, List.filterMap_cons, partsIn_eq_flatMap, List.filterMap_flatMap, picture?]
  cases head.picture <;> rfl

theorem pictures_masked (clip : Option Request) (style : List Declaration)
    (children : List Sketch) :
    (masked clip style children).pictures = children.flatMap pictures := by
  rw [pictures, parts, List.filterMap_cons, partsIn_eq_flatMap, List.filterMap_flatMap]
  rfl

theorem NamedDuring.picture? {last : Registry} {sketch : Sketch} {markup : Markup}
    (named : sketch.NamedDuring last markup) : markup.picture? = sketch.picture? := by
  cases sketch with
  | element head children =>
    obtain ⟨classes, kids, rfl, -, -⟩ := named.element
    rfl
  | masked clip style children =>
    obtain ⟨classes, kids, rfl, -, -⟩ := named.masked
    rfl
  | text content =>
    rw [named.text]
    rfl
  | lineBreak =>
    rw [named.lineBreak]
    rfl
  | fault id => exact absurd named NamedDuring.not_fault

/-- Naming changes nothing about pictures. -/
theorem NamedDuring.pictures {last : Registry} {sketch : Sketch} {markup : Markup}
    (named : sketch.NamedDuring last markup) : markup.pictures = sketch.pictures :=
  filterMap_eq_of_forall₂ (fun _ _ here => NamedDuring.picture? here) named.parts

end Sketch

namespace Emission

open Scene (Layer Node Visit visitsAt shownIn everyNode)
open Picture (Asset Assets Exporter exportedText? requestedVisits requested pictureVisits)

variable {options : Options} {assets : Assets}

/-! ### The pictures that emission meets -/

theorem pictures_of_isContent {sketch : Sketch} {utility : Request}
    (content : sketch.IsContent utility) : sketch.pictures = [] := by
  have noPictures : ∀ children : List Sketch, (∀ child ∈ children, child.IsLetters) →
      children.flatMap Sketch.pictures = [] := by
    intro children letters
    refine List.flatMap_eq_nil_iff.2 fun child mem => ?_
    cases letters child mem <;> rfl
  cases content with
  | letters letters => cases letters <;> rfl
  | paragraph _ letters => rw [Sketch.pictures_element, noPictures _ letters]; rfl
  | segment _ _ letters => rw [Sketch.pictures_element, noPictures _ letters]; rfl

theorem pictures_textSketch (layer : Layer) (text : Scene.TextStyle) (slot : Slot) :
    (textSketch options layer text slot).pictures = [] := by
  rw [textSketch, Sketch.pictures_element, Option.toList_none, List.nil_append,
    List.flatMap_eq_nil_iff]
  exact fun sketch mem =>
    pictures_of_isContent (Typography.isContent_textContent options text sketch mem)

theorem pictures_pictureSketch (layer : Layer) (asset : Asset) (slot : Slot) :
    (pictureSketch options layer asset slot).pictures = (pictureText? asset).toList := by
  rw [pictureSketch]
  split
  · rw [rotatedPicture, Sketch.pictures_element, List.flatMap_singleton, Sketch.pictures_element,
      List.flatMap_nil, List.append_nil]
    rfl
  · rw [uprightPicture, Sketch.pictures_element, List.flatMap_nil, List.append_nil]

theorem not_isContainer_of_isVectorLike {layer : Layer} (picture : layer.isVectorLike = true) :
    layer.isContainer = false := by
  unfold Layer.isVectorLike at picture
  unfold Layer.isContainer
  cases kind : layer.kind <;> simp_all

theorem not_isVectorLike_of_isContainer {layer : Layer} (goes : layer.isContainer = true) :
    (!layer.isVectorLike) = true := by
  rw [Bool.not_eq_true']
  refine Bool.eq_false_iff.2 fun picture => ?_
  rw [not_isContainer_of_isVectorLike picture] at goes
  cases goes

/-- What is no frame, no group and no picture shows none. -/
theorem pictures_of_other {layer : Layer} (goes : layer.isContainer = false)
    (other : layer.isVectorLike = false) (children : List Node) (slot : Slot) :
    (drawn options assets (.mk layer children) slot).pictures = [] := by
  rw [drawn, Node.layer_mk, layerSketch]
  split
  · rfl
  · unfold Layer.isContainer at goes
    unfold Layer.isVectorLike at other
    cases kind : layer.kind with
    | text text => exact pictures_textSketch layer text slot
    | rectangle => rfl
    | frame frame => simp [kind] at goes
    | group => simp [kind] at goes
    | ellipse => simp [kind] at other
    | vector => simp [kind] at other

/-- The picture that is shown for a layer, if it is one that can be placed. -/
def layerPicture? (assets : Assets) (layer : Layer) : Option String :=
  if layer.isVectorLike && !isFaulty layer then pictureText? (assets.find layer.id) else none

/-- The pictures in a tree are those of the pictures that emission meets. -/
theorem pictures_drawn (node : Node) (slot : Slot) (address : List Nat) :
    (drawn options assets node slot).pictures =
      (emissionVisits address node).filterMap fun visit => layerPicture? assets visit.2.layer := by
  refine collect_drawn Sketch.pictures (layerPicture? assets) (fun layer faulty => ?_)
    (fun layer inside slot _ goes => ?_) (fun layer children slot sound goes => ?_)
    Sketch.pictures_masked node slot address
  · rw [layerPicture?, faulty, Bool.not_true, Bool.and_false]
    rfl
  · -- A frame or group is no picture itself, and shows those of its children.
    have other : layer.isVectorLike = false := by
      rw [← Bool.not_eq_true']
      exact not_isVectorLike_of_isContainer goes
    rw [layerPicture?, other, containerSketch, Sketch.pictures_element]
    rfl
  · by_cases picture : layer.isVectorLike = true
    · rw [drawn_of_isVectorLike sound picture, pictures_pictureSketch, layerPicture?, picture,
        sound]
      rfl
    · rw [Bool.not_eq_true] at picture
      rw [pictures_of_other goes picture, layerPicture?, picture]
      rfl

/-! ### Placeholders -/

/-- Opacity and blending do not paint a background. -/
theorem not_background_of_mem_layerDeclarations (options : Options) (layer : Layer) :
    ∀ d ∈ Appearance.layerDeclarations options layer, d.property ≠ "background" := by
  intro d mem
  rcases List.mem_append.1 mem with mem | mem
  · split at mem
    · cases mem
    · rw [List.mem_singleton.1 mem]
      show "opacity" ≠ "background"
      decide
  · obtain ⟨mode, -, rfl⟩ := Option.map_eq_some_iff.1 (Option.mem_toList.1 mem)
    show "mix-blend-mode" ≠ "background"
    decide

/-- A placeholder declares its color as the background, and nothing else for it, whatever is
declared in front. -/
theorem background_of_placeholder (options : Options) (layer : Layer) (front : List Declaration) :
    (⟨"background", options.placeholderColor⟩ : Declaration) ∈
        lastOfEach (front ++ picturePaint options layer .placeholder) ∧
      ∀ d ∈ lastOfEach (front ++ picturePaint options layer .placeholder),
        d.property = "background" → d.value = options.placeholderColor := by
  have here : (⟨"background", options.placeholderColor⟩ : Declaration) ∈
      lastOfEach (front ++ picturePaint options layer .placeholder) := by
    refine Css.mem_lastOfEach_iff.2 ⟨front, _, rfl, Css.declares_eq_false_iff.2 fun d mem => ?_⟩
    rcases List.mem_append.1 mem with mem | mem
    · split at mem
      · rw [List.mem_singleton.1 mem]
        show "border-radius" ≠ "background"
        decide
      · cases mem
    · exact not_background_of_mem_layerDeclarations options layer d mem
  refine ⟨here, fun d mem same => ?_⟩
  rw [Css.eq_of_mem_lastOfEach mem here same]

/-- A tree is one of the trees in it. -/
theorem mem_subtrees_self (markup : Markup) : markup ∈ markup.subtrees := by
  cases markup with
  | element head children => exact List.mem_cons_self
  | text content => exact List.mem_singleton_self _
  | lineBreak => exact List.mem_singleton_self _

/-- An element that declares the paint of a placeholder by itself has a class for it. -/
theorem hasPlaceholder_of_own {last : Registry} {head : SketchHead} {children : List Sketch}
    {layer : Layer} (front : List Declaration)
    (own : head.styling.own = ownRequest? layer (front ++ picturePaint options layer .placeholder))
    {markup : Markup} (named : (Sketch.element head children).NamedDuring last markup) :
    markup.HasPlaceholder options.placeholderColor last := by
  obtain ⟨background, only⟩ := background_of_placeholder options layer front
  obtain ⟨classes, kids, rfl, texts, -⟩ := named.element
  have asked : ownRequest? layer (front ++ picturePaint options layer .placeholder) =
      some (.own (Naming.baseName layer.name layer.id)
        (lastOfEach (front ++ picturePaint options layer .placeholder))) := by
    refine if_neg fun empty => ?_
    rw [List.isEmpty_iff.1 empty] at background
    cases background
  have shown : signature (lastOfEach (front ++ picturePaint options layer .placeholder)) ∈
      head.styling.shown.map Request.ruleText := by
    rw [Styling.shown, own, asked]
    exact List.mem_cons_self
  obtain ⟨className, known, text⟩ := exists_of_mapM texts shown
  exact ⟨_, mem_subtrees_self _, className, known, _, text, background, only⟩

/-- A picture that could not be had has a class that paints the color of placeholders. -/
theorem hasPlaceholder_of_namedDuring {last : Registry} {layer : Layer} {slot : Slot}
    {markup : Markup}
    (named : (pictureSketch options layer .placeholder slot).NamedDuring last markup) :
    markup.HasPlaceholder options.placeholderColor last := by
  rw [pictureSketch] at named
  split at named
  · -- The placeholder is the box in the middle.
    obtain ⟨classes, kids, rfl, -, inside⟩ := Sketch.NamedDuring.element named
    obtain ⟨inner, rest, namedInner, namedRest, rfl⟩ := List.forall₂_cons_left_iff.1 inside
    obtain rfl := List.forall₂_nil_left_iff.1 namedRest
    obtain ⟨box, mem, paints⟩ := hasPlaceholder_of_own [] rfl namedInner
    refine ⟨box, ?_, paints⟩
    rw [Markup.subtrees, Markup.subtreesIn, Markup.subtreesIn, List.append_nil]
    exact List.mem_cons_of_mem _ mem
  · exact hasPlaceholder_of_own (Layout.sizeIn slot.placement layer).declarations rfl named

/-! ### Pictures and their exports -/

/-- The pictures that emission meets, each with its address. -/
def emittedPictures (root : Node) : List Visit :=
  (visitsAt Layer.isContainer [] root).filter fun visit => visit.2.layer.isVectorLike

/-- The element of a picture shows what the caller answered with, with names of its own; if that is
not text, it shows nothing, and paints the color of placeholders. -/
def ShowsExport (options : Options) (exporter : Exporter) (registry : Registry) (node : Node)
    (element : Markup) : Prop :=
  match exportedText? exporter node with
  | some text => element.pictures = [Picture.inlined text (Naming.slug node.layer.id)]
  | none => element.pictures = [] ∧ element.HasPlaceholder options.placeholderColor registry

/-- Emission goes below frames and groups, fetching below all but pictures. -/
theorem emittedPictures_sublist (root : Node) :
    (emittedPictures root).Sublist (pictureVisits [] root) := by
  refine List.Sublist.filter _ (Scene.visitsAt_sublist _ (fun layer goes => ?_) root [])
  by_cases picture : layer.isVectorLike = true
  · rw [not_isContainer_of_isVectorLike picture] at goes
    cases goes
  · simpa using picture

theorem mem_wanted_of_mem_emittedPictures {root : Node} {visit : Visit}
    (mem : visit ∈ emittedPictures root) : visit.2 ∈ Picture.wanted root := by
  rw [← Picture.map_snd_pictureVisits root []]
  exact List.mem_map_of_mem ((emittedPictures_sublist root).subset mem)

/-- The pictures of a tree without faults are those of all pictures that emission meets. -/
theorem pictures_rootSketch {root : Node}
    (sound : ∀ node ∈ reached root, isFaulty node.layer = false) :
    (rootSketch options assets root).pictures =
      (emittedPictures root).filterMap fun visit =>
        pictureText? (assets.find visit.2.layer.id) := by
  rw [rootSketch_eq_drawn, pictures_drawn root .root [], emissionVisits_eq sound, emittedPictures,
    List.filterMap_filter]
  refine List.filterMap_congr fun visit mem => ?_
  rw [layerPicture?, sound visit.2 (List.mem_map_of_mem mem), Bool.not_false, Bool.and_true]

/-- The element of a picture shows what stands for it. -/
theorem showsExport_of_namedDuring {exporter : Exporter} {last : Registry} {node : Node}
    {slot : Slot} {element : Markup} (sound : isFaulty node.layer = false)
    (picture : node.layer.isVectorLike = true)
    (stands : assets.find node.layer.id = Picture.fetchOne exporter node)
    (named : (drawn options assets node slot).NamedDuring last element) :
    ShowsExport options exporter last node element := by
  cases node with
  | mk layer children =>
    rw [Node.layer_mk] at sound picture stands
    rw [drawn_of_isVectorLike sound picture, stands, Picture.fetchOne_eq] at named
    have pictures := named.pictures
    rw [pictures_pictureSketch] at pictures
    rw [ShowsExport]
    cases exported : exportedText? exporter (.mk layer children) with
    | some text =>
      rw [exported] at pictures
      exact pictures
    | none =>
      rw [exported] at pictures named
      exact ⟨pictures, hasPlaceholder_of_namedDuring named⟩

/-- How the pictures of a tree meet their exports. -/
structure MeetsExports (options : Options) (exporter : Exporter) (root : Node) (last : Registry)
    (tree : Markup) : Prop where
  /-- Something stands for every picture that emission meets. -/
  known : ∀ visit ∈ emittedPictures root, visit.2.layer.id ∈ Assets.fetch exporter root
  /-- Looking at the nodes of a stack, one after the other, the caller is asked for the pictures
  that paint something, and what it answers is what stands for them. -/
  asked : Picture.Fetching.run exporter (Picture.weight root) { stack := [(root, true)] } =
    { stack := [], asked := requested root, assets := Assets.fetch exporter root }
  /-- It is asked once for each address. -/
  once : (requestedVisits root).map Prod.snd = requested root ∧
    ((requestedVisits root).map Prod.fst).Nodup
  /-- The pictures that emission meets and that paint something are among them, in order. -/
  inOrder : ((emittedPictures root).filter fun visit => visit.2.layer.hasVisiblePaint).Sublist
    (requestedVisits root)
  /-- The pictures in the tree are what stands for those that emission meets, in order. -/
  shown : tree.pictures = (emittedPictures root).filterMap fun visit =>
    pictureText? ((Assets.fetch exporter root).find visit.2.layer.id)
  /-- Every picture that emission meets has an element of its own, in order, and if no two nodes
  share an identifier, the element shows what was exported. -/
  elements : List.SublistForall₂ (fun visit element =>
      (∃ slot, (drawn options (Assets.fetch exporter root) visit.2 slot).NamedAs element) ∧
        (((everyNode root).map fun node => node.layer.id).Nodup →
          ShowsExport options exporter last visit.2 element))
    (emittedPictures root) tree.subtrees

/-- **No emitted picture misses its export.** Whatever trees were emitted before, and whatever trees
are emitted after. -/
theorem emitted_pictures_meet_exports {options : Options} {exporter : Exporter} {root : Node}
    {before : List Node} {tree : Markup}
    (emitted : (emitRoot options (Assets.fetch exporter root)
      (sheetAfter options (Assets.fetch exporter root) {} before) root).1 = .ok tree)
    (after : List Node) :
    MeetsExports options exporter root
      (sheetAfter options (Assets.fetch exporter root) {}
        (before ++ root :: after)).registry tree := by
  have faithful :=
    (faithful_sheetAfter options (Assets.fetch exporter root) faithful_start before).1
  have named := namedDuring_emitRoot options (Assets.fetch exporter root) faithful emitted after
  rw [← sheetAfter_append] at named
  have sound := (faults_rootSketch_eq_nil_iff root).1
    ((Sketch.exists_name_ok_iff _ _).1 ⟨tree, emitted⟩)
  refine ⟨fun visit mem => ?_, Picture.Fetching.run_root exporter root,
    ⟨Picture.map_snd_requestedVisits root, Picture.nodup_requestedVisits root⟩,
    (emittedPictures_sublist root).filter _, ?_, ?_⟩
  · exact Picture.mem_fetch exporter (mem_wanted_of_mem_emittedPictures mem)
  · rw [named.pictures, pictures_rootSketch sound]
  · refine sublistForall₂_imp (sublistForall₂_filter (sublistForall₂_subtrees sound named) _) ?_
    rintro visit mem element ⟨slot, -, here⟩
    obtain ⟨met, picture⟩ := List.mem_filter.1 mem
    refine ⟨⟨slot, here.namedAs⟩, fun distinct => ?_⟩
    -- Without a second node of its identifier, what was fetched for the node still stands for it.
    have stands := Picture.find_fetch exporter distinct (mem_wanted_of_mem_emittedPictures mem)
    exact showsExport_of_namedDuring (sound visit.2 (List.mem_map_of_mem met)) picture stands here

/-- An ellipse that the caller has a picture of, a shape that it has none of, and one that paints
nothing. -/
def threePictures : Node :=
  .mk { id := "2:1", kind := .group }
    [.mk { id := "2:2", kind := .ellipse, fills := [{ source := .image }] } [],
      .mk { id := "2:3", kind := .vector, strokes := [{ source := .image }] } [],
      .mk { id := "2:4", kind := .vector } []]

/-- A caller that has a picture of ellipses only. -/
def ellipseExporter : Exporter := fun node =>
  if node.layer.kind = .ellipse then .ok "<svg/>".toUTF8 else .error (.host "no picture")

theorem threePictures_meet_exports :
    ((everyNode threePictures).map fun node => node.layer.id).Nodup ∧
      ∃ tree, (emitRoot {} (Assets.fetch ellipseExporter threePictures)
          (sheetAfter {} (Assets.fetch ellipseExporter threePictures) {} []) threePictures).1 =
            .ok tree ∧
        MeetsExports {} ellipseExporter threePictures
          (sheetAfter {} (Assets.fetch ellipseExporter threePictures) {} [threePictures]).registry
          tree := by
  have sound :
      (rootSketch {} (Assets.fetch ellipseExporter threePictures) threePictures).faults = [] := by
    decide +kernel
  obtain ⟨tree, emitted⟩ := (Sketch.exists_name_ok_iff
    (sheetAfter {} (Assets.fetch ellipseExporter threePictures) {} [])
    (rootSketch {} (Assets.fetch ellipseExporter threePictures) threePictures)).2 sound
  exact ⟨by decide, tree, emitted, emitted_pictures_meet_exports emitted []⟩

end Emission

end SceneMarkup
