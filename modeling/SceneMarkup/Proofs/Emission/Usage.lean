import SceneMarkup.Proofs.Emission.Masking
import SceneMarkup.Proofs.Emission.Pictures

/-!
# Classes in use

Every class that an element shows was asked for by that element, and every class that is asked for
is shown by the element that asks. So the rules are those of the classes in use, as long as no tree
fails on the way.

* `Registry.classNames`, `Markup.usedClasses`: the classes that have a rule, and those that a tree
  shows;
* `Faithful.mem_classNames_internAll`: interning adds the rules of the classes that it answers;
* `Sheet.GrownBy`, `grownBy_name`: naming a sketch adds the rules of the classes in its markup;
* `outcomes`, `outcomes_ok_iff`: what comes of trees that are emitted one after the other;
* `rules_of_classes_in_use`: the classes in use have rules, and no other class has one unless a tree
  fails.
-/

namespace SceneMarkup

open Css (Declaration)
open Layout (keyMeaning IsKeyed)

namespace Registry

/-- The classes that have a rule. -/
def classNames (registry : Registry) : List String := registry.rules.map Rule.className

theorem GrownFrom.classNames_subset {later registry : Registry} (grown : later.GrownFrom registry) :
    registry.classNames ⊆ later.classNames :=
  List.map_subset _ grown.rules.subset

variable {meaning : String → List Declaration} {registry : Registry}

/-- A request leaves the class that it is answered with among those that have a rule, and no other
new one. -/
theorem Faithful.mem_classNames_intern (faithful : registry.Faithful meaning) {request : Request}
    (keyed : request.Keyed meaning) {className : String} :
    className ∈ (registry.intern request).2.classNames ↔
      className ∈ registry.classNames ∨ className = (registry.intern request).1 := by
  constructor
  · intro mem
    rw [classNames] at mem
    rcases registry.rules_intern request with same | ⟨answered, added⟩
    · rw [same] at mem
      exact .inl mem
    · rw [added] at mem
      rw [answered]
      exact (List.mem_cons.1 mem).symm
  · rintro (old | rfl)
    · exact List.map_subset _ (registry.rules_suffix_intern request).subset old
    · -- The class of an answer stands for a text, so it has a rule.
      obtain ⟨next, stands⟩ := faithful.intern keyed
      obtain ⟨rule, mem, same, -⟩ := next.toWellNamed.ruleText?_eq_some_iff.1 stands
      exact List.mem_map.2 ⟨rule, mem, same⟩

/-- Interning adds the rules of the classes that it answers. -/
theorem Faithful.mem_classNames_internAll (faithful : registry.Faithful meaning)
    {requests : List Request} (keyed : ∀ request ∈ requests, request.Keyed meaning)
    {className : String} :
    className ∈ (registry.internAll requests).2.classNames ↔
      className ∈ registry.classNames ∨ className ∈ (registry.internAll requests).1 := by
  induction requests generalizing registry with
  | nil => exact (or_iff_left List.not_mem_nil).symm
  | cons request rest ih =>
    obtain ⟨first, others⟩ := List.forall_mem_cons.1 keyed
    rw [internAll_cons, ih (faithful.intern first).1 others, faithful.mem_classNames_intern first,
      List.mem_cons, or_assoc]

end Registry

namespace Markup

/-- The classes that the elements of a tree show. -/
def usedClasses (markup : Markup) : List String := markup.subtrees.flatMap classes

theorem subtreesIn_eq_flatMap (markups : List Markup) :
    subtreesIn markups = markups.flatMap subtrees := by
  induction markups with
  | nil => rfl
  | cons markup rest ih => rw [subtreesIn, List.flatMap_cons, ih]

theorem usedClasses_element (head : Head) (children : List Markup) :
    (element head children).usedClasses = head.classes ++ children.flatMap usedClasses := by
  rw [usedClasses, subtrees, List.flatMap_cons, subtreesIn_eq_flatMap, List.flatMap_assoc]
  rfl

end Markup

/-! ### The rules that a sketch adds -/

/-- A sheet that has come to have rules for some classes more. -/
def Sheet.GrownBy (later sheet : Sheet) (classes : List String) : Prop :=
  ∀ className, className ∈ later.registry.classNames ↔
    className ∈ sheet.registry.classNames ∨ className ∈ classes

theorem Sheet.GrownBy.refl (sheet : Sheet) : sheet.GrownBy sheet [] :=
  fun _ => (or_iff_left List.not_mem_nil).symm

theorem Sheet.GrownBy.append {latest later sheet : Sheet} {classes more : List String}
    (grown : later.GrownBy sheet classes) (grownMore : latest.GrownBy later more) :
    latest.GrownBy sheet (classes ++ more) := by
  intro className
  rw [grownMore, grown, List.mem_append, or_assoc]

theorem Sheet.grownBy_internAll {sheet : Sheet} (faithful : sheet.registry.Faithful keyMeaning)
    {requests : List Request} (keyed : ∀ request ∈ requests, IsKeyed request) :
    (sheet.internAll requests).2.GrownBy sheet (sheet.internAll requests).1 :=
  fun _ => faithful.mem_classNames_internAll keyed

namespace Sketch

/-- The classes that an element shows are the answers to its requests. -/
theorem mem_classes_styledHead (sheet : Sheet) (head : SketchHead) (className : String) :
    className ∈ (styledHead sheet head).classes ↔
      className ∈ (sheet.registry.internAll head.styling.requests).1 := by
  -- The groups are shown in another order than that in which they are made.
  simp only [styledHead, Sheet.style, Sheet.internAll, registry_addFont, Styling.requests,
    Registry.internAll_append, List.mem_append]
  tauto

/-- The classes that an element shows are those that it asks for. -/
theorem grownBy_styledSheet {sheet : Sheet} (faithful : sheet.registry.Faithful keyMeaning)
    {head : SketchHead} (keyed : ∀ request ∈ head.styling.requests, IsKeyed request) :
    (styledSheet sheet head).GrownBy sheet (styledHead sheet head).classes := by
  intro className
  rw [registry_styledSheet, faithful.mem_classNames_internAll keyed, mem_classes_styledHead]

theorem grownBy_nameAll {sketches : List Sketch}
    (each : ∀ sketch ∈ sketches, ∀ {sheet sheet' : Sheet} {markup : Markup},
      sheet.registry.Faithful keyMeaning → Emission.AllKeyed sketch →
      name sheet sketch = (.ok markup, sheet') → sheet'.GrownBy sheet markup.usedClasses)
    {sheet sheet' : Sheet} {markups : List Markup} (faithful : sheet.registry.Faithful keyMeaning)
    (keyed : ∀ sketch ∈ sketches, Emission.AllKeyed sketch)
    (named : nameAll sheet sketches = (.ok markups, sheet')) :
    sheet'.GrownBy sheet (markups.flatMap Markup.usedClasses) := by
  induction sketches generalizing sheet markups with
  | nil =>
    rw [nameAll_nil] at named
    cases named
    exact .refl _
  | cons sketch rest ih =>
    obtain ⟨eachFirst, eachRest⟩ := List.forall_mem_cons.1 each
    obtain ⟨keyedFirst, keyedRest⟩ := List.forall_mem_cons.1 keyed
    obtain ⟨first, between, others, one, more, rfl⟩ := nameAll_cons_ok.1 named
    have next := (faithful_name faithful keyedFirst).1
    rw [one] at next
    exact (eachFirst faithful keyedFirst one).append (ih eachRest next keyedRest more)

/-- Naming a sketch adds the rules of the classes in its markup, and no others. -/
theorem grownBy_name (sketch : Sketch) : ∀ {sheet sheet' : Sheet} {markup : Markup},
    sheet.registry.Faithful keyMeaning → Emission.AllKeyed sketch →
    name sheet sketch = (.ok markup, sheet') → sheet'.GrownBy sheet markup.usedClasses := by
  induction sketch using induct with
  | element head children ih =>
    intro sheet sheet' markup faithful keyed named
    obtain ⟨styled, inside⟩ := Emission.allKeyed_element_iff.1 keyed
    obtain ⟨kids, namedInside, rfl⟩ := name_element_ok.1 named
    have next : (styledSheet sheet head).registry.Faithful keyMeaning := by
      rw [registry_styledSheet]
      exact faithful.internAll styled
    rw [Markup.usedClasses_element]
    exact (grownBy_styledSheet faithful styled).append (grownBy_nameAll ih next inside namedInside)
  | masked clip style children ih =>
    intro sheet sheet' markup faithful keyed named
    obtain ⟨inside, shape⟩ := Emission.allKeyed_masked_iff.1 keyed
    obtain ⟨kids, after, namedInside, rfl, rfl⟩ := name_masked_ok.1 named
    have next := (faithful_nameAll faithful inside).1
    rw [namedInside] at next
    -- The box asks for its class after everything in it, and shows it in front.
    have grown := (grownBy_nameAll ih faithful inside namedInside).append
      (Sheet.grownBy_internAll next shape)
    intro className
    rw [grown, Markup.usedClasses_element, List.mem_append, List.mem_append,
      @or_comm (className ∈ (after.internAll clip.toList).1)]
  | text content =>
    intro sheet sheet' markup _ _ named
    cases named
    exact .refl sheet
  | lineBreak =>
    intro sheet sheet' markup _ _ named
    cases named
    exact .refl sheet
  | fault id =>
    intro sheet sheet' markup _ _ named
    cases named

end Sketch

namespace Emission

open Scene (Node)
open Picture (Assets)

variable (options : Options) (assets : Assets)

/-- What comes of trees that are emitted one after the other. -/
def outcomes (sheet : Sheet) : List Node → List (Except String Markup)
  | [] => []
  | root :: rest =>
    (emitRoot options assets sheet root).1 :: outcomes (emitRoot options assets sheet root).2 rest

variable {options assets}

/-- A tree that comes of it was emitted at some time. -/
theorem exists_of_mem_outcomes {sheet : Sheet} {roots : List Node} {tree : Markup}
    (mem : .ok tree ∈ outcomes options assets sheet roots) :
    ∃ before root after, roots = before ++ root :: after ∧
      (emitRoot options assets (sheetAfter options assets sheet before) root).1 = .ok tree := by
  induction roots generalizing sheet with
  | nil => cases mem
  | cons root rest ih =>
    rcases List.mem_cons.1 mem with first | later
    · exact ⟨[], root, rest, rfl, first.symm⟩
    · obtain ⟨before, other, after, rfl, emitted⟩ := ih later
      exact ⟨root :: before, other, after, rfl, emitted⟩

/-- A tree that is emitted adds the rules of the classes that it shows. -/
theorem grownBy_emitRoot {sheet : Sheet} (faithful : sheet.registry.Faithful keyMeaning)
    {root : Node} {tree : Markup} (emitted : (emitRoot options assets sheet root).1 = .ok tree) :
    (emitRoot options assets sheet root).2.GrownBy sheet tree.usedClasses :=
  Sketch.grownBy_name _ faithful (keyed_rootSketch options assets root) (Prod.ext emitted rfl)

/-- All trees are emitted if and only if none of them has a fault. -/
theorem outcomes_ok_iff {sheet : Sheet} {roots : List Node} :
    (∀ outcome ∈ outcomes options assets sheet roots, ∃ tree, outcome = .ok tree) ↔
      ∀ root ∈ roots, (rootSketch options assets root).faults = [] := by
  induction roots generalizing sheet with
  | nil => exact ⟨fun _ _ mem => (by cases mem), fun _ _ mem => (by cases mem)⟩
  | cons root rest ih =>
    rw [outcomes, List.forall_mem_cons, List.forall_mem_cons, ih]
    exact and_congr_left' (Sketch.exists_name_ok_iff sheet _)

/-- Trees that are all emitted add the rules of the classes that they show. -/
theorem mem_classNames_sheetAfter {sheet : Sheet} (faithful : sheet.registry.Faithful keyMeaning)
    {roots : List Node}
    (emitted : ∀ outcome ∈ outcomes options assets sheet roots, ∃ tree, outcome = .ok tree)
    {className : String} :
    className ∈ (sheetAfter options assets sheet roots).registry.classNames ↔
      className ∈ sheet.registry.classNames ∨
        ∃ tree, .ok tree ∈ outcomes options assets sheet roots ∧ className ∈ tree.usedClasses := by
  induction roots generalizing sheet with
  | nil =>
    refine (or_iff_left ?_).symm
    rintro ⟨tree, mem, -⟩
    cases mem
  | cons root rest ih =>
    obtain ⟨⟨tree, first⟩, later⟩ := List.forall_mem_cons.1 emitted
    have next := (faithful_emitRoot options assets faithful root).1
    rw [show sheetAfter options assets sheet (root :: rest) =
      sheetAfter options assets (emitRoot options assets sheet root).2 rest from rfl, ih next later,
      grownBy_emitRoot faithful first, or_assoc, outcomes, first]
    simp only [List.mem_cons, Except.ok.injEq, or_and_right, exists_or, exists_eq_left]

/-- Every class of every tree that is emitted has a rule in the end, whatever fails before or
after. -/
theorem usedClasses_subset_classNames {roots : List Node} {tree : Markup}
    (mem : .ok tree ∈ outcomes options assets {} roots) :
    tree.usedClasses ⊆ (sheetAfter options assets {} roots).registry.classNames := by
  intro className used
  obtain ⟨before, root, after, rfl, emitted⟩ := exists_of_mem_outcomes mem
  have faithful := (faithful_sheetAfter options assets faithful_start before).1
  -- The class has a rule as soon as the tree is emitted, and rules stay.
  have here := (grownBy_emitRoot faithful emitted className).2 (.inr used)
  have next := (faithful_emitRoot options assets faithful root).1
  rw [sheetAfter_append]
  exact (faithful_sheetAfter options assets next after).2.classNames_subset here

/-- **The rules are those of the classes in use.** Every class of every tree that is emitted has a
rule in the end, whatever fails before or after. If nothing fails, no other class has one. -/
theorem rules_of_classes_in_use (options : Options) (assets : Assets) (roots : List Node) :
    (∀ tree, .ok tree ∈ outcomes options assets {} roots →
      tree.usedClasses ⊆ (sheetAfter options assets {} roots).registry.classNames) ∧
    ((∀ outcome ∈ outcomes options assets {} roots, ∃ tree, outcome = .ok tree) →
      ∀ className, className ∈ (sheetAfter options assets {} roots).registry.classNames ↔
        ∃ tree, .ok tree ∈ outcomes options assets {} roots ∧ className ∈ tree.usedClasses) := by
  refine ⟨fun tree mem => usedClasses_subset_classNames mem, fun emitted className => ?_⟩
  rw [mem_classNames_sheetAfter faithful_start emitted]
  exact or_iff_right List.not_mem_nil

/-- A group with masks in it. -/
def maskedGroup : Node := .mk { id := "0", kind := .group } maskedChildren

theorem rules_of_misleadingRow_maskedGroup_in_use :
    (∃ tree, .ok tree ∈ outcomes {} {} {} [misleadingRow, unplaced, maskedGroup] ∧
      tree.usedClasses ⊆
        (sheetAfter {} {} {} [misleadingRow, unplaced, maskedGroup]).registry.classNames) ∧
    (∀ outcome ∈ outcomes {} {} {} [misleadingRow, maskedGroup], ∃ tree, outcome = .ok tree) ∧
    ∀ className,
      className ∈ (sheetAfter {} {} {} [misleadingRow, maskedGroup]).registry.classNames ↔
      ∃ tree, .ok tree ∈ outcomes {} {} {} [misleadingRow, maskedGroup] ∧
        className ∈ tree.usedClasses := by
  have sound : ∀ root ∈ [misleadingRow, maskedGroup], (rootSketch {} {} root).faults = [] := by
    decide +kernel
  have emitted := (@outcomes_ok_iff {} {} {} _).2 sound
  obtain ⟨tree, first⟩ :=
    (Sketch.exists_name_ok_iff {} _).2 (sound misleadingRow List.mem_cons_self)
  have mem : .ok tree ∈ outcomes {} {} {} [misleadingRow, unplaced, maskedGroup] :=
    List.mem_cons.2 (.inl first.symm)
  exact ⟨⟨tree, mem, (rules_of_classes_in_use {} {} _).1 tree mem⟩, emitted,
    (rules_of_classes_in_use {} {} _).2 emitted⟩

end Emission

end SceneMarkup
