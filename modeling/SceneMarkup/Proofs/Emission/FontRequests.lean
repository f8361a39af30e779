import SceneMarkup.Proofs.Emission.Pictures
import SceneMarkup.Proofs.Emission.Usage
import SceneMarkup.Proofs.Typography.FontSet

/-!
# The fonts that are requested

* `Sketch.fonts`: the fonts that the elements of a sketch need, in document order;
* `fonts_name`: naming a sketch inserts them into the sheet, one after the other;
* `fonts_drawn`: they are those of the texts that emission meets;
* `ShowsFont`: a family that is requested and a weight, of a text that is emitted;
* `RequestsFonts`: how the address of a request follows from the fonts that are shown;
* `fonts_requested_are_shown`: it does, and no order or repetition of texts changes it.
-/

namespace SceneMarkup

open Typography (Catalogues FontSet)

namespace Sketch

/-- The font that an element needs. -/
def font? : Sketch → Option (String × Nat)
  | element head _ => head.font
  | masked _ _ _ | text _ | lineBreak | fault _ => none

/-- The fonts that the elements of a sketch need, in document order. -/
def fonts (sketch : Sketch) : List (String × Nat) := sketch.parts.filterMap font?

theorem fonts_element (head : SketchHead) (children : List Sketch) :
    (element head children).fonts = head.font.toList ++ children.flatMap fonts := by
  rw [fonts, parts, List.filterMap_cons, partsIn_eq_flatMap, List.filterMap_flatMap, font?]
  cases head.font <;> rfl

theorem fonts_masked (clip : Option Request) (style : List Css.Declaration)
    (children : List Sketch) : (masked clip style children).fonts = children.flatMap fonts := by
  rw [fonts, parts, List.filterMap_cons, partsIn_eq_flatMap, List.filterMap_flatMap]
  rfl

/-! ### The sheet afterwards -/

theorem fonts_styledSheet (sheet : Sheet) (head : SketchHead) :
    (styledSheet sheet head).fonts = sheet.fonts.insertAll head.font.toList := by
  rw [styledSheet]
  cases head.font <;> rfl

theorem fonts_nameAll {sketches : List Sketch}
    (each : ∀ sketch ∈ sketches, ∀ {sheet sheet' : Sheet} {markup : Markup},
      name sheet sketch = (.ok markup, sheet') → sheet'.fonts = sheet.fonts.insertAll sketch.fonts)
    {sheet sheet' : Sheet} {markups : List Markup}
    (named : nameAll sheet sketches = (.ok markups, sheet')) :
    sheet'.fonts = sheet.fonts.insertAll (sketches.flatMap fonts) := by
  induction sketches generalizing sheet markups with
  | nil =>
    rw [nameAll_nil] at named
    cases named
    rfl
  | cons sketch rest ih =>
    obtain ⟨eachFirst, eachRest⟩ := List.forall_mem_cons.1 each
    obtain ⟨first, between, others, one, more, rfl⟩ := nameAll_cons_ok.1 named
    rw [ih eachRest more, eachFirst one, List.flatMap_cons, FontSet.insertAll_append]

/-- Naming a sketch inserts the fonts that its elements need, one after the other. -/
theorem fonts_name (sketch : Sketch) : ∀ {sheet sheet' : Sheet} {markup : Markup},
    name sheet sketch = (.ok markup, sheet') →
      sheet'.fonts = sheet.fonts.insertAll sketch.fonts := by
  induction sketch using induct with
  | element head children ih =>
    intro sheet sheet' markup named
    obtain ⟨kids, inside, -⟩ := name_element_ok.1 named
    rw [fonts_nameAll ih inside, fonts_styledSheet, fonts_element, FontSet.insertAll_append]
  | masked clip style children ih =>
    intro sheet sheet' markup named
    obtain ⟨kids, after, inside, rfl, -⟩ := name_masked_ok.1 named
    have inserted : after.fonts = _ := fonts_nameAll ih inside
    rw [fonts_masked]
    exact inserted
  | text content =>
    intro sheet sheet' markup named
    cases named
    rfl
  | lineBreak =>
    intro sheet sheet' markup named
    cases named
    rfl
  | fault id =>
    intro sheet sheet' markup named
    cases named

end Sketch

namespace Emission

open Scene (Layer Node)
open Picture (Asset Assets)

variable {options : Options} {assets : Assets}

/-! ### The texts that emission meets -/

/-- The family and the weight of a text whose family is requested. -/
def layerFont? (options : Options) (layer : Layer) : Option (String × Nat) :=
  match layer.kind with
  | .text text =>
    if FontSet.requests options text.font.family then
      some (text.font.family, Typography.weight text.font.style)
    else none
  | .frame _ | .group | .rectangle | .ellipse | .vector => none

theorem layerFont?_of_isContainer {layer : Layer} (goes : layer.isContainer = true) :
    layerFont? options layer = none := by
  unfold Layer.isContainer at goes
  unfold layerFont?
  cases kind : layer.kind <;> simp_all

theorem fonts_of_isContent {sketch : Sketch} {utility : Request}
    (content : sketch.IsContent utility) :
    sketch.fonts = [] := by
  have noFonts : ∀ children : List Sketch, (∀ child ∈ children, child.IsLetters) →
      children.flatMap Sketch.fonts = [] := by
    intro children letters
    refine List.flatMap_eq_nil_iff.2 fun child mem => ?_
    cases letters child mem <;> rfl
  cases content with
  | letters letters => cases letters <;> rfl
  | paragraph _ letters => rw [Sketch.fonts_element, noFonts _ letters]; rfl
  | segment _ _ letters => rw [Sketch.fonts_element, noFonts _ letters]; rfl

/-- A text needs its own font, and nothing in it needs another. -/
theorem fonts_textSketch (layer : Layer) (text : Scene.TextStyle) (slot : Slot) :
    (textSketch options layer text slot).fonts =
      (if FontSet.requests options text.font.family then
        some (text.font.family, Typography.weight text.font.style)
      else none).toList := by
  rw [textSketch, Sketch.fonts_element, List.flatMap_eq_nil_iff.2 fun sketch mem =>
    fonts_of_isContent (Typography.isContent_textContent options text sketch mem), List.append_nil]

theorem fonts_pictureSketch (layer : Layer) (asset : Asset) (slot : Slot) :
    (pictureSketch options layer asset slot).fonts = [] := by
  rw [pictureSketch]
  split <;> rfl

/-- What is no frame or group needs the font of its text, if it is one. -/
theorem fonts_of_leaf {layer : Layer} (sound : isFaulty layer = false)
    (leaf : layer.isContainer = false) (children : List Node) (slot : Slot) :
    (drawn options assets (.mk layer children) slot).fonts = (layerFont? options layer).toList := by
  rw [isFaulty, Bool.not_eq_false'] at sound
  rw [drawn, Node.layer_mk, layerSketch, sound, layerFont?]
  unfold Layer.isContainer at leaf
  cases kind : layer.kind with
  | frame frame => simp [kind] at leaf
  | group => simp [kind] at leaf
  | text text => exact fonts_textSketch layer text slot
  | rectangle => rfl
  | ellipse => exact fonts_pictureSketch layer _ slot
  | vector => exact fonts_pictureSketch layer _ slot

/-- The fonts of a tree without faults are those of all texts that emission reaches. -/
theorem fonts_rootSketch {root : Node}
    (sound : ∀ node ∈ reached root, isFaulty node.layer = false) :
    (rootSketch options assets root).fonts =
      (reached root).filterMap fun node => layerFont? options node.layer := by
  have collected : (drawn options assets root .root).fonts = (emissionVisits [] root).filterMap
      fun visit => if isFaulty visit.2.layer then none else layerFont? options visit.2.layer :=
    collect_drawn Sketch.fonts
      (fun layer => if isFaulty layer then none else layerFont? options layer)
      (fun layer faulty => by rw [if_pos faulty]; rfl)
      (fun layer inside slot _ goes => by
        rw [layerFont?_of_isContainer goes, ite_self, containerSketch, Sketch.fonts_element])
      (fun layer children slot sound leaf => by rw [fonts_of_leaf sound leaf, sound]; rfl)
      Sketch.fonts_masked root .root []
  rw [rootSketch_eq_drawn, collected, emissionVisits_eq sound, reached, List.filterMap_map]
  refine List.filterMap_congr fun visit mem => ?_
  rw [sound visit.2 (List.mem_map_of_mem mem)]
  rfl

/-! ### The fonts of all trees -/

/-- The fonts of trees that are all emitted. -/
theorem fonts_sheetAfter {sheet : Sheet} {roots : List Node}
    (emitted : ∀ outcome ∈ outcomes options assets sheet roots, ∃ tree, outcome = .ok tree) :
    (sheetAfter options assets sheet roots).fonts = sheet.fonts.insertAll
      (roots.flatMap fun root => (reached root).filterMap fun node =>
        layerFont? options node.layer) := by
  induction roots generalizing sheet with
  | nil => rfl
  | cons root rest ih =>
    obtain ⟨⟨tree, first⟩, later⟩ := List.forall_mem_cons.1 emitted
    have sound :=
      (faults_rootSketch_eq_nil_iff root).1 ((Sketch.exists_name_ok_iff _ _).1 ⟨tree, first⟩)
    have here : (emitRoot options assets sheet root).2.fonts = _ :=
      Sketch.fonts_name _ (Prod.ext first rfl)
    rw [show sheetAfter options assets sheet (root :: rest) =
      sheetAfter options assets (emitRoot options assets sheet root).2 rest from rfl, ih later,
      here, fonts_rootSketch sound, List.flatMap_cons, FontSet.insertAll_append]

/-- A text that is emitted has this family, and a style of this weight, and the family is requested:
fonts are, its name is not blank, and it is no icon font. -/
def ShowsFont (options : Options) (roots : List Node) (family : String) (weight : Nat) : Prop :=
  ∃ root ∈ roots, ∃ node ∈ reached root, ∃ text, node.layer.kind = .text text ∧
    text.font.family = family ∧ Typography.weight text.font.style = weight ∧
    options.includeFonts = true ∧ Unicode.isBlank family = false ∧ options.isIconFont family = false

theorem requests_iff {family : String} :
    FontSet.requests options family = true ↔ options.includeFonts = true ∧
      Unicode.isBlank family = false ∧ options.isIconFont family = false := by
  simp [FontSet.requests, and_assoc]

theorem layerFont?_eq_some_iff {layer : Layer} {family : String} {weight : Nat} :
    layerFont? options layer = some (family, weight) ↔ ∃ text, layer.kind = .text text ∧
      text.font.family = family ∧ Typography.weight text.font.style = weight ∧
      options.includeFonts = true ∧ Unicode.isBlank family = false ∧
      options.isIconFont family = false := by
  rw [← requests_iff, layerFont?]
  cases kind : layer.kind with
  | text text =>
    simp only [Option.ite_none_right_eq_some, Option.some.injEq, Prod.mk.injEq,
      Scene.Kind.text.injEq, exists_eq_left']
    constructor
    · rintro ⟨asked, rfl, rfl⟩
      exact ⟨rfl, rfl, asked⟩
    · rintro ⟨rfl, rfl, asked⟩
      exact ⟨asked, rfl, rfl⟩
  | frame frame => simp
  | group => simp
  | rectangle => simp
  | ellipse => simp
  | vector => simp

theorem mem_fonts_iff {roots : List Node} {family : String} {weight : Nat} :
    ((family, weight) ∈ roots.flatMap fun root =>
      (reached root).filterMap fun node => layerFont? options node.layer) ↔
      ShowsFont options roots family weight := by
  simp only [List.mem_flatMap, List.mem_filterMap, layerFont?_eq_some_iff, ShowsFont]

/-- How the fonts of a sheet follow from what the trees show. -/
structure RequestsFonts (options : Options) (roots : List Node) (fonts : FontSet) : Prop where
  /-- The fonts that are shown are listed, each once and in ascending order, and no others. -/
  catalogue : Catalogues (ShowsFont options roots) fonts.toList
  /-- They are all requested by one address, if there are any; a blank of a family is a plus sign
  there. -/
  address : fonts.url? =
    if fonts.toList = [] then none
    else
      some ("https://fonts.googleapis.com/css2?" ++
        "&".intercalate (fonts.toList.map fun (family, weights) =>
          "family=" ++ (family.map fun c => if c = ' ' then '+' else c) ++ ":wght@" ++
            ";".intercalate (weights.map toString)) ++ "&display=swap")

theorem requestsFonts_sheetAfter {roots : List Node}
    (emitted : ∀ outcome ∈ outcomes options assets {} roots, ∃ tree, outcome = .ok tree) :
    RequestsFonts options roots (sheetAfter options assets {} roots).fonts where
  catalogue := by
    rw [fonts_sheetAfter emitted]
    exact (FontSet.keeps_insertAll _).catalogues.congr fun _ _ => mem_fonts_iff
  address := FontSet.url?_eq _

/-- **The fonts that are requested are those that are shown.** Of trees that are all emitted, the
families and weights of the texts in them are requested, each once and in ascending order. So trees
that show the same fonts request them with the same address, whatever the order and the repetition
of their texts. -/
theorem fonts_requested_are_shown {options : Options} {assets : Assets} {roots : List Node}
    (emitted : ∀ outcome ∈ outcomes options assets {} roots, ∃ tree, outcome = .ok tree) :
    RequestsFonts options roots (sheetAfter options assets {} roots).fonts ∧
      ∀ options' assets' roots',
        (∀ outcome ∈ outcomes options' assets' {} roots', ∃ tree, outcome = .ok tree) →
        (∀ family weight, ShowsFont options' roots' family weight ↔
          ShowsFont options roots family weight) →
        (sheetAfter options' assets' {} roots').fonts.url? =
          (sheetAfter options assets {} roots).fonts.url? := by
  refine ⟨requestsFonts_sheetAfter emitted, fun options' assets' roots' emitted' same => ?_⟩
  have here := requestsFonts_sheetAfter emitted
  have there := requestsFonts_sheetAfter emitted'
  rw [here.address, there.address, (there.catalogue.congr same).unique here.catalogue]

/-- Texts in two weights of one family and in another one, an icon, and a hidden text. -/
def headings : Node :=
  let text (id family style : String) (visible : Bool) : Node :=
    .mk { id, visible, kind := .text { characters := "a", font := { family, style } } } []
  .mk { id := "6:1", kind := .group }
    [text "6:2" "Inter" "Bold" true, text "6:3" "Arimo" "Regular" true,
      text "6:4" "Inter" "Light" true, text "6:5" "Icon Font" "Regular" true,
      text "6:6" "Lato" "Regular" false]

theorem fonts_of_headings_requested :
    RequestsFonts {} [headings] (sheetAfter {} {} {} [headings]).fonts ∧
      (sheetAfter {} {} {} [headings, headings]).fonts.url? =
        (sheetAfter {} {} {} [headings]).fonts.url? := by
  have sound : (rootSketch {} {} headings).faults = [] := by decide +kernel
  have emitted : ∀ outcome ∈ outcomes {} {} {} [headings], ∃ tree, outcome = .ok tree :=
    outcomes_ok_iff.2 (by simpa using sound)
  have twice : ∀ outcome ∈ outcomes {} {} {} [headings, headings], ∃ tree, outcome = .ok tree :=
    outcomes_ok_iff.2 (by simpa using sound)
  obtain ⟨requests, sameFonts⟩ := fonts_requested_are_shown emitted
  exact ⟨requests, sameFonts _ _ _ twice fun family weight => by simp [ShowsFont]⟩

example :
    (sheetAfter {} {} {} [headings]).fonts.url? = some ("https://fonts.googleapis.com/css2?" ++
    "family=Arimo:wght@400&family=Inter:wght@300;700&display=swap") := by decide +kernel

end Emission

end SceneMarkup
