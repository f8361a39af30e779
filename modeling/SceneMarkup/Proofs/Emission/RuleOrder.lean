import SceneMarkup.Proofs.Emission.Composition
import SceneMarkup.Proofs.Emission.Pictures
import SceneMarkup.Proofs.Stylesheet.Order

/-!
# The order of rules does not matter

Rules are sorted by name, whatever they are for. That changes nothing, since no element has two
sources of style that have to do with each other.

* `matching`, `cascade`, `winner?`: the rules that apply to an element, what they and the element
  declare, in the order in which the later wins, and the line that wins a property;
* `OrderFree`: an element whose sources of style have nothing to do with each other, so that the
  order of rules does not matter;
* `orderFree_of_composed`: an element that is composed so is free of order;
* `allOrderly_sheetAfter`: the rules stay orderly, whatever is emitted;
* `order_of_rules_irrelevant`: every element of every tree is free of order.
-/

namespace SceneMarkup

open Css (Declaration Independent lineProperty sets)

/-! ### The cascade -/

/-- What the lines of a rule declare: each line with its property. -/
def Rule.entries (rule : Rule) : List (String × String) :=
  rule.body.map fun line => (lineProperty line, line)

theorem Rule.map_fst_entries (rule : Rule) : rule.entries.map Prod.fst = rule.properties := by
  rw [entries, List.map_map]
  rfl

/-- The rules that apply to an element of some classes. -/
def matching (rules : List Rule) (classes : List String) : List Rule :=
  rules.filter fun rule => classes.contains rule.className

theorem mem_matching {rules : List Rule} {classes : List String} {rule : Rule} :
    rule ∈ matching rules classes ↔ rule ∈ rules ∧ rule.className ∈ classes := by
  rw [matching, List.mem_filter, List.contains_iff_mem]

/-- What is declared for an element, each line with its property: by the rules that apply to it, in
their order, and then by its own style. -/
def cascade (rules : List Rule) (classes : List String) (style : List Declaration) :
    List (String × String) :=
  (matching rules classes).flatMap Rule.entries ++ style.map fun d => (d.property, d.line)

/-- The line that wins a property of an element: the last one that sets it. -/
def winner? (rules : List Rule) (classes : List String) (style : List Declaration)
    (property : String) :
    Option String :=
  (((cascade rules classes style).filter fun entry => sets entry.1 property).map Prod.snd).getLast?

/-- An element whose sources of style have nothing to do with each other. -/
structure OrderFree (rules : List Rule) (classes : List String)
    (style : List Declaration) : Prop where
  /-- No class is repeated. -/
  nodup : classes.Nodup
  /-- Every class has a rule. -/
  defined : ∀ className ∈ classes, ∃ rule ∈ rules, rule.className = className
  /-- No property is declared twice. -/
  once : ((cascade rules classes style).map Prod.fst).Nodup
  /-- No two sources declare the same property, or a shorthand and one of its longhands. -/
  apart : (style.map Declaration.property ::
    (matching rules classes).map Rule.properties).Pairwise Independent
  /-- In any order of the rules the same line wins. -/
  winner_eq : ∀ order : List Rule, order.Perm rules → ∀ property,
    winner? order classes style property = winner? rules classes style property

/-! ### Elements that are composed -/

namespace Registry

variable {registry : Registry}

/-- A class of a registry has a rule that declares something, nothing twice, and nothing outside of
the family of a request. -/
def Defines (registry : Registry) (className : String) (request : Request) : Prop :=
  ∃ rule ∈ registry.rules, rule.className = className ∧ rule.properties ≠ [] ∧
    rule.properties.Nodup ∧ rule.properties ⊆ request.family

/-- The class of a text has such a rule for every request of that text. -/
theorem defines_of_ruleText? (named : registry.WellNamed) (orderly : registry.AllOrderly)
    {className : String} {request : Request}
    (stands : registry.ruleText? className = some request.ruleText) :
    registry.Defines className request := by
  obtain ⟨rule, mem, same, text⟩ := named.ruleText?_eq_some_iff.1 stands
  exact ⟨rule, mem, same, orderly.rule mem text⟩

/-- The rules of two classes have nothing to do with each other. -/
def ApartIn (registry : Registry) (className other : String) : Prop :=
  ∀ rule ∈ registry.rules, ∀ rule' ∈ registry.rules, rule.className = className →
    rule'.className = other → Independent rule.properties rule'.properties

variable {classes : List String} {style : List Declaration} {shown : List Request}

theorem pairwise_apartIn (named : registry.WellNamed)
    (defines : List.Forall₂ registry.Defines classes shown)
    (apart : (shown.map Request.family).Pairwise Independent) :
    classes.Pairwise registry.ApartIn := by
  refine pairwise_of_forall₂ ?_ defines (List.pairwise_map.1 apart)
  rintro a a' b b' ⟨rule, mem, rfl, -, -, inside⟩ ⟨rule', mem', rfl, -, -, inside'⟩ independent
  intro first memFirst second memSecond same same'
  rw [named.eq_of_className memFirst mem same, named.eq_of_className memSecond mem' same']
  exact independent.mono inside inside'

/-- Classes whose rules have nothing to do with each other are different. -/
theorem nodup_of_apartIn (defines : List.Forall₂ registry.Defines classes shown)
    (apart : classes.Pairwise registry.ApartIn) : classes.Nodup := by
  refine apart.imp_of_mem fun {a b} mem _ independent same => ?_
  subst same
  obtain ⟨request, -, rule, memRule, same, nonempty, -, -⟩ := exists_of_forall₂ defines mem
  obtain ⟨property, declared⟩ := List.exists_mem_of_ne_nil _ nonempty
  exact (independent rule memRule rule memRule same same).disjoint declared declared

/-- The rules that apply to an element have nothing to do with each other. -/
theorem pairwise_matching (named : registry.WellNamed) (apart : classes.Pairwise registry.ApartIn) :
    (matching registry.rules classes).Pairwise fun rule rule' =>
      Independent rule.properties rule'.properties := by
  have symm : Std.Symm registry.ApartIn :=
    ⟨fun a b h rule mem rule' mem' same same' => (h rule' mem' rule mem same' same).symm⟩
  have nodup : (matching registry.rules classes).Nodup := named.nodup.of_map.filter _
  refine nodup.pairwise_of_forall_ne fun rule mem rule' mem' differ => ?_
  obtain ⟨known, applies⟩ := mem_matching.1 mem
  obtain ⟨known', applies'⟩ := mem_matching.1 mem'
  have other : rule.className ≠ rule'.className := fun same =>
    differ (named.eq_of_className known known' same)
  exact apart.forall applies applies' other rule known rule' known' rfl rfl

/-- What is in the family of a request of an element is independent of its style. -/
theorem independent_style (named : registry.WellNamed)
    (defines : List.Forall₂ registry.Defines classes shown) {properties : List String}
    (apart : ∀ others ∈ shown.map Request.family, Independent properties others) {rule : Rule}
    (mem : rule ∈ matching registry.rules classes) :
    Independent properties rule.properties ∧ rule.properties.Nodup := by
  obtain ⟨known, applies⟩ := mem_matching.1 mem
  obtain ⟨request, asked, other, knownOther, same, -, nodup, inside⟩ :=
    exists_of_forall₂ defines applies
  obtain rfl := named.eq_of_className knownOther known same
  exact ⟨(apart _ (List.mem_map_of_mem asked)).mono (List.Subset.refl _) inside, nodup⟩

/-- **An element that is composed of what has nothing to do with each other is free of order.** -/
theorem orderFree_of_composed (named : registry.WellNamed)
    (defines : List.Forall₂ registry.Defines classes shown) (composed : Composed style shown) :
    OrderFree registry.rules classes style := by
  obtain ⟨ofStyle, ofRequests⟩ := List.pairwise_cons.1 composed.independent
  have classesApart := pairwise_apartIn named defines ofRequests
  have rulesApart := pairwise_matching named classesApart
  have styleApart := fun rule => @independent_style _ _ _ named defines _ ofStyle rule
  refine
    { nodup := nodup_of_apartIn defines classesApart
      defined := ?_
      once := ?_
      apart := ?_
      winner_eq := ?_ }
  · intro className mem
    obtain ⟨request, -, rule, known, same, -⟩ := exists_of_forall₂ defines mem
    exact ⟨rule, known, same⟩
  · rw [cascade, List.map_append, List.map_map, List.map_flatMap]
    refine List.Nodup.append (List.nodup_flatMap.2 ⟨?_, ?_⟩) composed.nodup ?_
    · intro rule mem
      rw [rule.map_fst_entries]
      exact (styleApart rule mem).2
    · refine rulesApart.imp fun independent => ?_
      simpa only [Function.onFun, Rule.map_fst_entries] using independent.disjoint
    · intro property inRules inStyle
      obtain ⟨rule, mem, declared⟩ := List.mem_flatMap.1 inRules
      rw [rule.map_fst_entries] at declared
      exact (styleApart rule mem).1.disjoint inStyle declared
  · refine .cons (fun properties mem => ?_) (List.pairwise_map.2 rulesApart)
    obtain ⟨rule, applies, rfl⟩ := List.mem_map.1 mem
    exact (styleApart rule applies).1
  · intro order same property
    -- At most one rule sets the property, so what the rules declare for it comes in the same order.
    have alone : (matching registry.rules classes).Pairwise fun rule rule' =>
        (rule.entries.filter fun entry => sets entry.1 property) = [] ∨
          (rule'.entries.filter fun entry => sets entry.1 property) = [] := by
      refine rulesApart.imp fun {rule rule'} independent => ?_
      by_contra both
      obtain ⟨nonempty, nonempty'⟩ := not_or.1 both
      obtain ⟨entry, mem⟩ := List.exists_mem_of_ne_nil _ nonempty
      obtain ⟨entry', mem'⟩ := List.exists_mem_of_ne_nil _ nonempty'
      obtain ⟨declared, wins⟩ := List.mem_filter.1 mem
      obtain ⟨declared', wins'⟩ := List.mem_filter.1 mem'
      have here := rule.map_fst_entries ▸ List.mem_map_of_mem (f := Prod.fst) declared
      have there := rule'.map_fst_entries ▸ List.mem_map_of_mem (f := Prod.fst) declared'
      rw [Css.not_sets_of_independent independent here there wins] at wins'
      cases wins'
    have shuffled : (matching registry.rules classes).Perm (matching order classes) :=
      (same.filter _).symm
    simp only [winner?, cascade, List.filter_append, List.filter_flatMap,
      Css.flatMap_eq_of_perm shuffled alone]

end Registry

/-! ### Trees -/

/-- The classes of an element stand for what its sketch shows, and its style is that of its
sketch. -/
theorem Sketch.NamedDuring.spelled_shown {last : Registry} {sketch : Sketch} {markup : Markup}
    (named : sketch.NamedDuring last markup) :
    markup.classes.mapM last.ruleText? = some (sketch.shown.map Request.ruleText) ∧
      markup.style = sketch.style := by
  cases sketch with
  | element head children =>
    obtain ⟨classes, kids, rfl, texts, -⟩ := named.element
    exact ⟨texts, rfl⟩
  | masked clip style children =>
    obtain ⟨classes, kids, rfl, texts, -⟩ := named.masked
    exact ⟨texts, rfl⟩
  | text content =>
    obtain rfl := named.text
    exact ⟨rfl, rfl⟩
  | lineBreak =>
    obtain rfl := named.lineBreak
    exact ⟨rfl, rfl⟩
  | fault id => exact absurd named NamedDuring.not_fault

/-- The classes of an element and what its sketch shows, one by one. -/
theorem Sketch.NamedDuring.forall₂_classes {last : Registry} {sketch : Sketch} {markup : Markup}
    (named : sketch.NamedDuring last markup) :
    List.Forall₂ (fun className request => last.ruleText? className = some request.ruleText)
      markup.classes sketch.shown := by
  have texts := forall₂_of_mapM named.spelled_shown.1
  rwa [List.forall₂_map_right_iff] at texts

/-- An element makes the requests that it shows. -/
theorem Styling.mem_requests_iff {styling : Styling} {request : Request} :
    request ∈ styling.requests ↔ request ∈ styling.shown := by
  simp only [Styling.requests, Styling.shown, List.mem_append]
  tauto

/-- Every request of a sketch is shown by some part of it. -/
theorem Sketch.IsComposed.orderly {sketch : Sketch} (composed : sketch.IsComposed) :
    ∀ request ∈ sketch.requests, Orderly request.declarations := by
  induction sketch using Sketch.induct with
  | element head children ih =>
    obtain ⟨here, inside⟩ := isComposed_element_iff.1 composed
    rw [requests, requestsIn_eq_flatMap, List.forall_mem_append, List.forall_mem_flatMap]
    exact ⟨fun request mem => here.orderly request (Styling.mem_requests_iff.1 mem),
      fun child mem => ih child mem (inside child mem)⟩
  | masked clip style children ih =>
    obtain ⟨here, inside⟩ := isComposed_masked_iff.1 composed
    rw [requests, requestsIn_eq_flatMap, List.forall_mem_append, List.forall_mem_flatMap]
    exact ⟨fun child mem => ih child mem (inside child mem), here.orderly⟩
  | text content => exact fun _ mem => by cases mem
  | lineBreak => exact fun _ mem => by cases mem
  | fault id => exact fun _ mem => by cases mem

namespace Emission

open Scene (Node)
open Picture (Assets)

variable {options : Options} {assets : Assets}

/-- The rules stay orderly, whatever is emitted. -/
theorem allOrderly_sheetAfter {sheet : Sheet} (orderly : sheet.registry.AllOrderly)
    (roots : List Node) : (sheetAfter options assets sheet roots).registry.AllOrderly := by
  induction roots generalizing sheet with
  | nil => exact orderly
  | cons root rest ih =>
    refine ih ?_
    have composed : (rootSketch options assets root).IsComposed :=
      isComposed_drawn options assets root .root
    -- The registry comes from requests of the tree, be it not all of them.
    obtain ⟨made, isPrefix, after, -⟩ := Sketch.madeOf_name (rootSketch options assets root) sheet
    show ((rootSketch options assets root).name sheet).2.registry.AllOrderly
    rw [after]
    exact orderly.internAll fun request mem => composed.orderly request (isPrefix.subset mem)

/-- **The order of rules does not matter.** Whatever was emitted before, and is emitted after a
tree: for every element of the tree, no class is repeated, no property is declared twice, and no two
of its sources of style have to do with each other. So the same lines win when the rules are sorted
as when they stand as they were added, and in any other order, too. -/
theorem order_of_rules_irrelevant {root : Node} {before : List Node} {tree : Markup}
    (emitted : (emitRoot options assets (sheetAfter options assets {} before) root).1 = .ok tree)
    (after : List Node) :
    let registry := (sheetAfter options assets {} (before ++ root :: after)).registry
    ∀ element ∈ tree.subtrees, OrderFree registry.rules element.classes element.style ∧
      ∀ property, winner? registry.sorted element.classes element.style property =
        winner? registry.rules.reverse element.classes element.style property := by
  intro registry element mem
  have faithful := (faithful_sheetAfter options assets faithful_start before).1
  have named := (faithful_sheetAfter options assets faithful_start (before ++ root :: after)).1
  have orderly : registry.AllOrderly := allOrderly_sheetAfter Registry.allOrderly_empty _
  -- Every element is named for a part of the sketch, and that is composed.
  have parts := (namedDuring_emitRoot options assets faithful emitted after).parts
  rw [← sheetAfter_append] at parts
  obtain ⟨part, isPart, here⟩ := exists_of_forall₂ parts.flip mem
  have composed := isComposed_drawn options assets root .root part isPart
  rw [← (Sketch.NamedDuring.spelled_shown here).2] at composed
  have defines := (Sketch.NamedDuring.forall₂_classes here).imp fun _ _ stands =>
    Registry.defines_of_ruleText? named.toWellNamed orderly stands
  have free := Registry.orderFree_of_composed named.toWellNamed defines composed
  refine ⟨free, fun property => ?_⟩
  rw [free.winner_eq _ (Registry.sorted_perm _), free.winner_eq _ (List.reverse_perm _)]

/-- A placeholder that reads like the end of a list of fonts. -/
def fontLikePlaceholder : Options := { placeholderColor := "\"B\", sans-serif" }

/-- A row of two texts and a picture. The name of the font of the first text reads like two lines of
the second, so that both texts share a class, though they declare different properties. -/
def alikeTexts : Node :=
  .mk { id := "4:1"
        kind :=
          .frame { mode := .horizontal, wrap := .wrap, itemSpacing := 8, lineSpacing := some 4,
                         paddingTop := 2 } }
    [.mk { id := "4:2"
           kind :=
             .text { characters := "a", font := { family := "A\", sans-serif;\ncolor: \"B" } } } [],
      .mk { id := "4:3", kind := .text { characters := "b", font := { family := "A" } },
            fills := [{ source := .image }] } [],
      .mk { id := "4:4", kind := .vector, rotation := 45 } []]

theorem alikeTexts_free_of_order :
    ∃ tree, (emitRoot fontLikePlaceholder {} (sheetAfter fontLikePlaceholder {} {} [misleadingRow])
        alikeTexts).1 = .ok tree ∧
      let registry :=
        (sheetAfter fontLikePlaceholder {} {}
          ([misleadingRow] ++ alikeTexts :: [unplaced])).registry
      ∀ element ∈ tree.subtrees, OrderFree registry.rules element.classes element.style ∧
        ∀ property, winner? registry.sorted element.classes element.style property =
          winner? registry.rules.reverse element.classes element.style property := by
  have sound : (rootSketch fontLikePlaceholder {} alikeTexts).faults = [] := by decide +kernel
  obtain ⟨tree, emitted⟩ := (Sketch.exists_name_ok_iff
    (sheetAfter fontLikePlaceholder {} {} [misleadingRow])
    (rootSketch fontLikePlaceholder {} alikeTexts)).2 sound
  exact ⟨tree, emitted, order_of_rules_irrelevant emitted [unplaced]⟩

end Emission

end SceneMarkup
