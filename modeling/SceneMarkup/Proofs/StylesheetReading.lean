import SceneMarkup.Conversion
import SceneMarkup.Proofs.ConversionOutcome
import SceneMarkup.Proofs.Emission.Fonts
import SceneMarkup.Proofs.Emission.RuleOrder
import SceneMarkup.Proofs.Stylesheet.Reading

/-!
# What can break a stylesheet

The rules of a conversion read back from its stylesheet, unless the family of a font has a line
break in it. Nothing else in a design can add, end or split a rule: no name, no identifier, no text
and no number.

* `exists_of_convert_eq_ok`: where the stylesheet of a conversion comes from;
* `rule_of_tree`: its rules have names of class characters, and lines that name nothing but fonts;
* `exists_rule_of_isShownFamily`: every font of a text that is reached is named by a rule;
* `Legible`, `stylesheet_legible`: so the rules read back if and only if no such name is broken;
* `forgedRule`, `forged_rule_is_read`: a font whose name ends its rule and begins another.
-/

namespace SceneMarkup

open Css (AllTame Declaration readRules)
open Emission (IsShownFamily emitRoot faithful_emitRoot faithful_start isFaulty
  namedDuring_emitRoot reached rootSketch)
open Naming (IsClassText isClassChar_of_isDigit)
open Picture (Assets Exporter noExporter)
open Scene (Layer Node)
open Typography (NamesFont familyDeclaration)

/-- The stylesheet of a conversion is that of the sheet after its root. -/
theorem exists_of_convert_eq_ok {options : Options} {exporter : Exporter} {selection : List Node}
    {output : Output} (converted : convert options exporter selection = .ok output) :
    ∃ root tree sheet, selectRoot options selection = .ok root ∧
      emitRoot options (Assets.fetch exporter root) {} root = (.ok tree, sheet) ∧
      output.stylesheet = Document.stylesheet options.dialect sheet := by
  cases selected : selectRoot options selection with
  | error reason =>
    rw [convert, selected] at converted
    cases converted
  | ok root =>
    rw [convert, selected] at converted
    simp only [bind, Except.bind, pure, Except.pure] at converted
    rcases emitted : emitRoot options (Assets.fetch exporter root) {} root with ⟨id | tree, sheet⟩
    · rw [emitted] at converted
      cases converted
    · rw [emitted] at converted
      cases converted
      exact ⟨root, tree, sheet, rfl, emitted, rfl⟩

namespace Emission

variable {options : Options} {assets : Assets} {root : Node}

theorem isClassText_candidate {base : String} (h : IsClassText base) (n : Nat) :
    IsClassText (candidate base n) := by
  unfold candidate
  split
  · exact h
  · exact (h.append (by decide)).append (Text.isOf_nat isClassChar_of_isDigit n)

/-- A rule of a tree has a name of class characters, and its lines name nothing but one font of a
text that is reached. -/
theorem rule_of_tree (placeholder : IsValue options.placeholderColor) {rule : Rule}
    (mem : rule ∈ (emitRoot options assets {} root).2.registry.rules) :
    IsClassText rule.className ∧ ∃ declarations, rule.body = Css.lines declarations ∧
      (AllTame declarations ∨ ∃ family, IsShownFamily root family ∧
        NamesFont family declarations) := by
  obtain ⟨made, isPrefix, after, -⟩ := Sketch.madeOf_name (rootSketch options assets root) {}
  replace mem : rule ∈ (Registry.internAll {} made).2.rules := by
    rw [← after]
    exact mem
  rcases Registry.exists_request_of_mem_rules mem with before | ⟨request, asked, ⟨n, name⟩, body⟩
  · cases before
  · have names := namesOnly_rootSketch placeholder assets root request (isPrefix.subset asked)
    rw [name]
    exact ⟨isClassText_candidate names.base n, request.declarations, body, names.declarations⟩

/-- A text that can be placed is an element of its own. -/
theorem drawn_of_text {node : Node} (sound : isFaulty node.layer = false) {text : Scene.TextStyle}
    (isText : node.layer.kind = .text text) (slot : Slot) :
    drawn options assets node slot = textSketch options node.layer text slot := by
  rw [isFaulty, Bool.not_eq_false'] at sound
  rw [drawn, layerSketch, sound, isText]
  rfl

/-- A text asks for a rule that names its font. -/
theorem exists_shown_textSketch (placeholder : IsValue options.placeholderColor) (layer : Layer)
    (text : Scene.TextStyle) (slot : Slot) :
    ∃ request ∈ (textSketch options layer text slot).shown,
      NamesFont text.font.family request.declarations := by
  have names := (namesFont_letters placeholder layer text slot.placement).lastOfEach
  refine ⟨.own (Naming.baseName layer.name layer.id) (Css.lastOfEach _), ?_, names⟩
  show _ ∈ Option.toList _ ++ _ ++ _ ++ _
  exact List.mem_append_left _ (List.mem_append_left _ (List.mem_append_left _
    (own_mem_ownRequest? names.ne_nil)))

/-- Every font of a text that is reached is named by a rule, or by one that has its text. -/
theorem exists_rule_of_isShownFamily (placeholder : IsValue options.placeholderColor)
    {tree : Markup} (emitted : (emitRoot options assets {} root).1 = .ok tree) {family : String}
    (shown : IsShownFamily root family) :
    ∃ rule ∈ (emitRoot options assets {} root).2.registry.rules, ∃ declarations,
      NamesFont family declarations ∧ "\n".intercalate rule.body = signature declarations := by
  have named := namedDuring_emitRoot options assets faithful_start emitted []
  have wellNamed := (faithful_emitRoot options assets faithful_start root).1.toWellNamed
  have sound : ∀ node ∈ reached root, isFaulty node.layer = false :=
    (faults_rootSketch_eq_nil_iff root).1 ((Sketch.exists_name_ok_iff _ _).1 ⟨tree, emitted⟩)
  -- The text has an element, and the element asks for what its letters are set in.
  obtain ⟨node, met, text, isText, rfl⟩ := shown
  obtain ⟨visit, isVisit, rfl⟩ := List.mem_map.1 met
  obtain ⟨elements, each, -⟩ := List.sublistForall₂_iff.1 (sublistForall₂_subtrees sound named)
  obtain ⟨element, -, place, -, here⟩ := exists_of_forall₂ each isVisit
  rw [drawn_of_text (sound visit.2 met) isText] at here
  obtain ⟨request, asked, names⟩ := exists_shown_textSketch placeholder visit.2.layer text place
  obtain ⟨className, -, stands⟩ := exists_of_forall₂ here.forall₂_classes.flip asked
  obtain ⟨rule, mem, -, body⟩ := wellNamed.ruleText?_eq_some_iff.1 stands
  exact ⟨rule, mem, request.declarations, names, body⟩

/-- Only the name of a font can break a name or a line of a rule, and it does. -/
theorem forall_isOneLine_rules_iff (placeholder : IsValue options.placeholderColor) {tree : Markup}
    (emitted : (emitRoot options assets {} root).1 = .ok tree) :
    (∀ rule ∈ (emitRoot options assets {} root).2.registry.rules,
        IsOneLine rule.className ∧ ∀ line ∈ rule.body, IsOneLine line) ↔
      ∀ family, IsShownFamily root family → IsOneLine family := by
  constructor
  · intro whole family shown
    -- A rule has the text of one that names the font, so it names the font itself.
    obtain ⟨rule, mem, declarations, names, text⟩ :=
      exists_rule_of_isShownFamily placeholder emitted shown
    obtain ⟨-, others, body, either⟩ := rule_of_tree placeholder mem
    have same : signature others = signature declarations := by
      rw [← text, body]
      rfl
    have namesToo := names.of_signature_eq same
      (either.imp_right fun ⟨other, _, namesOther⟩ => ⟨other, namesOther⟩)
    rw [← namesToo.forall_isOneLine_iff]
    intro d declared
    exact (whole rule mem).2 d.line (by rw [body]; exact List.mem_map_of_mem declared)
  · intro whole rule mem
    obtain ⟨name, declarations, body, names⟩ := rule_of_tree placeholder mem
    refine ⟨name.isOneLine rfl, ?_⟩
    rw [body]
    refine List.forall_mem_map.2 fun d declared => ?_
    rcases names with tame | ⟨family, shown, names⟩
    · exact (tame d declared).isOneLine
    · exact names.forall_isOneLine_iff.2 (whole family shown) d declared

end Emission

/-- What is known of the rules of a tree: their names are of class characters, every line of them
names nothing or is that of the font of a text that is reached, and they read back if and only if no
name of such a font is broken. -/
structure Legible (root : Node) (registry : Registry) : Prop where
  names : ∀ rule ∈ registry.rules, IsClassText rule.className
  lines : ∀ rule ∈ registry.rules, ∀ line ∈ rule.body,
    (∃ d : Declaration, d.IsTame ∧ line = d.line) ∨
    ∃ family, IsShownFamily root family ∧ line = (familyDeclaration family).line
  reads : readRules registry.css = some (registry.sorted.map Rule.entry) ↔
    ∀ family, IsShownFamily root family → IsOneLine family

/-- The rules of a tree that is emitted are legible. -/
theorem legible_emitRoot {options : Options} (placeholder : IsValue options.placeholderColor)
    {assets : Assets} {root : Node} {tree : Markup}
    (emitted : (emitRoot options assets {} root).1 = .ok tree) :
    Legible root (emitRoot options assets {} root).2.registry where
  names := fun rule mem => (Emission.rule_of_tree placeholder mem).1
  lines := by
    intro rule mem line inside
    obtain ⟨-, declarations, body, names⟩ := Emission.rule_of_tree placeholder mem
    rw [body] at inside
    obtain ⟨d, declared, rfl⟩ := List.mem_map.1 inside
    rcases names with tame | ⟨family, shown, names⟩
    · exact .inl ⟨d, tame d declared, rfl⟩
    · rcases names.tame_or_eq declared with tame | rfl
      · exact .inl ⟨d, tame, rfl⟩
      · exact .inr ⟨family, shown, rfl⟩
  reads := by
    rw [Registry.readRules_css_iff]
    exact Emission.forall_isOneLine_rules_iff placeholder emitted

/-- **What can break a stylesheet.** The rules of a conversion are legible: if the color that stands
for pictures is written like a value, as the default is, then nothing in the design but a line break
in the name of a font can add, end or split a rule. -/
theorem stylesheet_legible {options : Options} {exporter : Exporter} {selection : List Node}
    {output : Output} (placeholder : IsValue options.placeholderColor)
    (converted : convert options exporter selection = .ok output) :
    ∃ root tree sheet, selectRoot options selection = .ok root ∧
      emitRoot options (Assets.fetch exporter root) {} root = (.ok tree, sheet) ∧
      output.stylesheet = Document.stylesheet options.dialect sheet ∧
      Legible root sheet.registry := by
  obtain ⟨root, tree, sheet, selected, emitted, written⟩ := exists_of_convert_eq_ok converted
  refine ⟨root, tree, sheet, selected, emitted, written, ?_⟩
  have legible := legible_emitRoot placeholder (congrArg Prod.fst emitted)
  rwa [emitted] at legible

/-- A frame with a text whose font has a name that ends its rule and begins another. -/
def forgedRule : Node :=
  .mk { id := "8:1", kind := .frame {}, width := 40, height := 40 }
    [.mk { id := "8:2", width := 30, height := 10
           kind := .text { characters := "Hi", fontSize := 10,
                           font :=
                             { family := "A\", serif;\n\x7d\n\n.b \x7b\n  color: red; x: \"" } } }
                               []]

theorem exists_convert_forgedRule :
    ∃ output, convert {} noExporter [forgedRule] = .ok output := by
  have sound : (rootSketch {} (Assets.fetch noExporter forgedRule) forgedRule).faults = [] := by
    rw [Emission.faults_rootSketch_eq_nil_iff]
    decide +kernel
  obtain ⟨tree, emitted⟩ := (Sketch.exists_name_ok_iff {} _).2 sound
  have selected : selectRoot {} [forgedRule] = .ok forgedRule := rfl
  rcases convert_of_selectRoot selected noExporter with ⟨id, failed, -⟩ | ⟨_, output, -, converted⟩
  · rw [emitRoot, emitted] at failed
    cases failed
  · exact ⟨output, converted⟩

theorem stylesheet_of_forgedRule_legible :
    IsValue ({} : Options).placeholderColor ∧
      ∃ output, convert {} noExporter [forgedRule] = .ok output ∧
        ∃ root tree sheet, selectRoot {} [forgedRule] = .ok root ∧
          emitRoot {} (Assets.fetch noExporter root) {} root = (.ok tree, sheet) ∧
          output.stylesheet = Document.stylesheet .html sheet ∧ Legible root sheet.registry := by
  obtain ⟨output, converted⟩ := exists_convert_forgedRule
  exact ⟨by decide, output, converted, stylesheet_legible (by decide) converted⟩

/-- The registry that the frame leaves. -/
def forgedRegistry : Registry :=
  (emitRoot {} (Assets.fetch noExporter forgedRule) {} forgedRule).2.registry

/-- The rules of the frame, in order: its own, that of the text, and the size of its letters. -/
def forgedRules : List Rule :=
  [⟨"node-8-1", "node-8-1", 0, ["width: 40px;", "height: 40px;"]⟩,
    ⟨"node-8-2", "node-8-2", 0,
      ["width: 30px;", "height: 10px;",
        "font-family: \"A\", serif;\n\x7d\n\n.b \x7b\n  color: red; x: \"\", sans-serif;"]⟩,
    ⟨"text-10", "text-10", 0, ["font-size: 10px;"]⟩]

theorem sorted_forgedRegistry : forgedRegistry.sorted = forgedRules := by
  have added : forgedRegistry.rules.reverse = forgedRules := by decide +kernel
  rw [Registry.sorted, added]
  exact List.mergeSort_of_pairwise (by decide +kernel)

/-- **The name of a font can forge a rule.** The frame is converted, and its stylesheet reads back
as four rules, though it has three. -/
theorem forged_rule_is_read :
    (∃ output, convert {} noExporter [forgedRule] = .ok output) ∧
      forgedRegistry.sorted = forgedRules ∧
      readRules forgedRegistry.css =
        some [⟨"node-8-1", ["width: 40px;", "height: 40px;"]⟩,
          ⟨"node-8-2", ["width: 30px;", "height: 10px;", "font-family: \"A\", serif;"]⟩,
          ⟨"b", ["color: red; x: \"\", sans-serif;"]⟩,
          ⟨"text-10", ["font-size: 10px;"]⟩] ∧
      readRules forgedRegistry.css ≠ some (forgedRegistry.sorted.map Rule.entry) := by
  refine ⟨exists_convert_forgedRule, sorted_forgedRegistry, ?_, ?_⟩ <;>
    rw [Registry.css, sorted_forgedRegistry] <;> decide +kernel

end SceneMarkup
