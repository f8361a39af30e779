import SceneMarkup.CommandLine.Command
import SceneMarkup.Proofs.Emission.Naming
import SceneMarkup.Proofs.Emission.Parts
import SceneMarkup.Proofs.Emission.RealNumbers
import SceneMarkup.Proofs.Emission.RuleOrder

/-!
# Conversions that show real numbers

The guard of emission asks whether what places a node is finite. It does not ask about what is
painted, spaced or set, and what is finite may still be too large to be shown. If all of it is
moderate, a conversion succeeds and shows real numbers only.

* `ShowsReals`: what is known of the markup and the rules of a conversion;
* `modest_conversion_shows_reals`: so it is for every conversion whose layers are modest;
* `paddedRow`, `infinite_padding_is_shown`: a row with an infinite padding passes the guard.
-/

namespace SceneMarkup

open Css (AllShowReals Declaration)
open Emission (emitRoot isFaulty reached rootSketch shownLayers)
open Picture (Assets Exporter noExporter)
open Scene (Layer Node)

/-- Every style of a tree and every rule shows real numbers, but for names of fonts and stacking
orders. -/
structure ShowsReals (tree : Markup) (registry : Registry) : Prop where
  styles : ∀ element ∈ tree.subtrees, AllShowReals element.style
  rules : ∀ rule ∈ registry.rules, ∃ declarations,
    rule.body = Css.lines declarations ∧ AllShowReals declarations

/-- What a sketch asks for shows real numbers if its parts do. -/
theorem Sketch.ShowsReals.requests {sketch : Sketch} (shows : sketch.ShowsReals) :
    ∀ request ∈ sketch.requests, AllShowReals request.declarations := by
  induction sketch using Sketch.induct with
  | element head children ih =>
    obtain ⟨⟨-, here⟩, inside⟩ := showsReals_element_iff.1 shows
    exact Emission.allAsk_element_iff.2
      ⟨fun request mem => here request (Styling.mem_requests_iff.1 mem),
      fun child mem => ih child mem (inside child mem)⟩
  | masked clip style children ih =>
    obtain ⟨⟨-, here⟩, inside⟩ := showsReals_masked_iff.1 shows
    exact Emission.allAsk_masked_iff.2 ⟨fun child mem => ih child mem (inside child mem), here⟩
  | text content => exact fun _ mem => by cases mem
  | lineBreak => exact fun _ mem => by cases mem
  | fault id => exact fun _ mem => by cases mem

variable {options : Options} {exporter : Exporter} {selection : List Node} {root : Node}
  {tree : Markup}
  {sheet : Sheet}

/-- The tree and the rules of a sketch that shows real numbers. -/
theorem showsReals_of_name {assets : Assets} (shows : (rootSketch options assets root).ShowsReals)
    (emitted : emitRoot options assets {} root = (.ok tree, sheet)) :
    ShowsReals tree sheet.registry where
  styles := by
    intro element mem
    have named : (rootSketch options assets root).NamedAs tree := ⟨{}, sheet, emitted⟩
    have descends := Sketch.descends_namedAs
    obtain ⟨part, isPart, here⟩ := exists_of_forall₂ (descends.parts _ tree named).flip mem
    rw [(descends.style_children here).1]
    exact (shows part isPart).1
  rules := by
    intro rule mem
    obtain ⟨made, isPrefix, after, -⟩ := Sketch.madeOf_name (rootSketch options assets root) {}
    have isSheet : sheet.registry = (Registry.internAll {} made).2 := by
      rw [← after, show (Sketch.name {} (rootSketch options assets root)) = _ from emitted]
    rw [isSheet] at mem
    rcases Registry.exists_request_of_mem_rules mem with before | ⟨request, asked, -, body⟩
    · cases before
    · exact ⟨request.declarations, body, shows.requests request (isPrefix.subset asked)⟩

/-- A tree is emitted if everything that is reached can be placed. -/
theorem exists_emitRoot_eq_ok (assets : Assets)
    (sound : ∀ node ∈ reached root, isFaulty node.layer = false) :
    ∃ tree, emitRoot options assets {} root = (.ok tree, (emitRoot options assets {} root).2) := by
  obtain ⟨tree, named⟩ :=
    (Sketch.exists_name_ok_iff {} _).2 ((Emission.faults_rootSketch_eq_nil_iff root).2 sound)
  exact ⟨tree, Prod.ext named rfl⟩

/-- The files of a tree that is emitted. -/
theorem convert_of_emitRoot (selected : selectRoot options selection = .ok root)
    (emitted : emitRoot options (Assets.fetch exporter root) {} root = (.ok tree, sheet)) :
    convert options exporter selection =
      .ok ⟨(document options sheet root.layer.name tree).1,
        (document options sheet root.layer.name tree).2, options.stylesheetName,
        Document.stylesheet options.dialect sheet⟩ := by
  rw [convert, selected]
  simp only [bind, Except.bind, pure, Except.pure, emitted]
  rfl

/-- **A modest conversion shows real numbers only.** If the layers that are reached are modest, and
so are the masks in them, then the conversion succeeds, and every style of its document and every
rule of its stylesheet shows real numbers. -/
theorem modest_conversion_shows_reals (placeholder : IsReal options.placeholderColor)
    (selected : selectRoot options selection = .ok root)
    (modest : ∀ node ∈ reached root, ∀ layer ∈ shownLayers node, layer.IsModest)
    (exporter : Exporter) :
    ∃ tree sheet, emitRoot options (Assets.fetch exporter root) {} root = (.ok tree, sheet) ∧
      convert options exporter selection =
        .ok ⟨(document options sheet root.layer.name tree).1,
          (document options sheet root.layer.name tree).2, options.stylesheetName,
          Document.stylesheet options.dialect sheet⟩ ∧
      ShowsReals tree sheet.registry := by
  have shows : (rootSketch options (Assets.fetch exporter root) root).ShowsReals :=
    Emission.showsReals_drawn placeholder root .root [] trivial fun visit met =>
      modest visit.2 (List.mem_map_of_mem met)
  have sound : ∀ node ∈ reached root, isFaulty node.layer = false := by
    intro node met
    rw [isFaulty, (modest node met node.layer List.mem_cons_self).hasFiniteGeometry]
    rfl
  obtain ⟨tree, emitted⟩ := exists_emitRoot_eq_ok (Assets.fetch exporter root) sound
  exact ⟨tree, _, emitted, convert_of_emitRoot selected emitted, showsReals_of_name shows emitted⟩

/-- A card that glows in the middle, with a mask and what it covers. -/
def glowingCard : Node :=
  .mk { id := "10:2", name := "Card", width := 320, height := 200, cornerRadius := some 12
        kind := .frame { mode := .vertical, paddingTop := 16, itemSpacing := 0.5 }
        fills :=
          [{ source := .gradient .radial { stops := [⟨0, ⟨1, 1, 1, 1⟩⟩, ⟨1, ⟨0, 0, 0.5, 0.25⟩⟩] } }]
        effects :=
          [{ kind := .dropShadow { color := ⟨0, 0, 0, 0.25⟩, offsetY := 4, radius := 8 } }] }
    [.mk { id := "10:3", kind := .ellipse, width := 40, height := 40, isMask := true } [],
      .mk { id := "10:4", kind := .rectangle, x := 10, width := 40, height := 40,
            rotation := 30 } []]

theorem glowingCard_shows_reals :
    IsReal ({} : Options).placeholderColor ∧ selectRoot {} [glowingCard] = .ok glowingCard ∧
      (∀ node ∈ reached glowingCard, ∀ layer ∈ shownLayers node, layer.IsModest) ∧
      ∃ tree sheet, emitRoot {} (Assets.fetch noExporter glowingCard) {} glowingCard =
        (.ok tree, sheet) ∧
        convert {} noExporter [glowingCard] =
          .ok ⟨(document {} sheet "Card" tree).1, (document {} sheet "Card" tree).2, "styles.css",
            Document.stylesheet .html sheet⟩ ∧
        ShowsReals tree sheet.registry := by
  have placeholder : IsReal ({} : Options).placeholderColor := by decide
  have selected : selectRoot {} [glowingCard] = .ok glowingCard := rfl
  have modest : ∀ node ∈ reached glowingCard, ∀ layer ∈ shownLayers node,
      layer.IsModest := by decide +kernel
  exact ⟨placeholder, selected, modest,
    modest_conversion_shows_reals placeholder selected modest noExporter⟩

/-! ### What the guard lets pass -/

/-- The text of a row whose padding is past the numbers of 32 bits. -/
def paddedText : String :=
  "\x7b\"id\": \"10:1\", \"name\": \"Row\", \"type\": \"FRAME\", \"width\": 40, \"height\": 40, " ++
    "\"layoutMode\": \"HORIZONTAL\", \"paddingTop\": 1e39\x7d"

/-- The row, whose padding is read as infinite. -/
def paddedRow : Node :=
  .mk { id := "10:1", name := "Row",
        kind := .frame { mode := .horizontal, paddingTop := .infinite false }
        width := 40, height := 40 } []

theorem selection_of_paddedText :
    (Json.read CommandLine.maxDepth paddedText).bind CommandLine.selectionOfJson =
      some [paddedRow] := by
  have read : ((Json.read CommandLine.maxDepth paddedText).bind CommandLine.selectionOfJson).map
      (List.map fun node => (node.layer, node.children.isEmpty)) =
        some [(paddedRow.layer, true)] := by
    decide +kernel
  obtain ⟨nodes, found, same⟩ := Option.map_eq_some_iff.1 read
  obtain ⟨⟨layer, children⟩, rfl, only⟩ := List.map_eq_singleton_iff.1 same
  obtain ⟨isLayer, childless⟩ := Prod.mk.inj only
  rw [Node.layer_mk] at isLayer
  rw [Node.children_mk] at childless
  rw [found, isLayer, List.isEmpty_iff.1 childless]
  rfl

/-- **An infinite padding is shown.** The row is read and converted, and its stylesheet has a rule
with the length that stands for an infinite one. -/
theorem infinite_padding_is_shown :
    (Json.read CommandLine.maxDepth paddedText).bind CommandLine.selectionOfJson =
      some [paddedRow] ∧
      ∃ tree sheet output, emitRoot {} (Assets.fetch noExporter paddedRow) {} paddedRow =
        (.ok tree, sheet) ∧
        convert {} noExporter [paddedRow] = .ok output ∧
        output.stylesheet = Document.stylesheet .html sheet ∧
        ∃ rule ∈ sheet.registry.rules,
          rule.body = Css.lines [⟨"padding-top", Css.px (.infinite false)⟩] ∧
          rule.body = ["padding-top: 9223372036854775807px;"] := by
  refine ⟨selection_of_paddedText, ?_⟩
  have sound : ∀ node ∈ reached paddedRow, isFaulty node.layer = false := by decide +kernel
  obtain ⟨tree, emitted⟩ := exists_emitRoot_eq_ok (Assets.fetch noExporter paddedRow) sound
  have padded :
      ∃ rule ∈ (emitRoot {} (Assets.fetch noExporter paddedRow) {} paddedRow).2.registry.rules,
      rule.body = Css.lines [⟨"padding-top", Css.px (.infinite false)⟩] ∧
        rule.body = ["padding-top: 9223372036854775807px;"] := by
    decide +kernel
  exact ⟨tree, _, _, emitted, convert_of_emitRoot rfl emitted, rfl, padded⟩

end SceneMarkup
