import SceneMarkup.Proofs.Emission.Requests

/-!
# Naming while the registry grows

Sketches are named one after the other, and the registry grows all the time. What a class stands for
when it is handed out, it stands for at any later time.

* `Registry.GrownFrom`: a registry that has come to hold more rules;
* `faithful_name`: naming a sketch keeps a registry faithful, and only adds rules to it;
* `Sketch.NamedDuring`: markup that a sketch is named with on the way to a registry;
* `NamedDuring.element`, `NamedDuring.masked`: the classes of an element stand for what it asks for,
  and what is in it is named on the way to the same registry.
-/

namespace SceneMarkup

open Emission (AllKeyed allKeyed_element_iff allKeyed_masked_iff)
open Layout (IsKeyed keyMeaning)

namespace Registry

/-- A registry that has come to hold more rules, each still under a class of its own. -/
structure GrownFrom (later registry : Registry) : Prop where
  wellNamed : later.WellNamed
  rules : registry.rules <:+ later.rules

theorem GrownFrom.trans {latest later registry : Registry} (h : latest.GrownFrom later)
    (h' : later.GrownFrom registry) : latest.GrownFrom registry :=
  ⟨h.wellNamed, h'.rules.trans h.rules⟩

theorem Faithful.grownFrom_internAll {meaning : String → List Css.Declaration} {registry : Registry}
    (faithful : registry.Faithful meaning) {requests : List Request}
    (keyed : ∀ request ∈ requests, request.Keyed meaning) :
    (registry.internAll requests).2.GrownFrom registry :=
  ⟨(faithful.internAll keyed).toWellNamed, registry.rules_suffix_internAll requests⟩

/-- Classes that had a text keep it. -/
theorem GrownFrom.mapM_ruleText? {later registry : Registry} (grown : later.GrownFrom registry)
    (named : registry.WellNamed) {classes texts : List String}
    (h : classes.mapM registry.ruleText? = some texts) :
    classes.mapM later.ruleText? = some texts := by
  induction classes generalizing texts with
  | nil => exact h
  | cons className rest ih =>
    rw [List.mapM_cons] at h ⊢
    obtain ⟨text, first, others⟩ := Option.bind_eq_some_iff.1 h
    obtain ⟨more, others, same⟩ := Option.bind_eq_some_iff.1 others
    rw [ruleText?_eq_of_suffix named grown.wellNamed grown.rules first, ih others]
    exact same

/-- The classes of requests, spelled out at any later time. -/
theorem Faithful.spelled_internAll {meaning : String → List Css.Declaration}
    {registry later : Registry} (faithful : registry.Faithful meaning) {requests : List Request}
    (keyed : ∀ request ∈ requests, request.Keyed meaning)
    (grown : later.GrownFrom (registry.internAll requests).2) :
    (registry.internAll requests).1.mapM later.ruleText? = some (requests.map Request.ruleText) :=
  grown.mapM_ruleText? (faithful.internAll keyed).toWellNamed (faithful.mapM_ruleText? keyed)

end Registry

namespace Sketch

/-! ### The registry of a sheet while it is in use -/

/-- Naming a sketch keeps a registry faithful, and only adds rules to it. -/
theorem faithful_of_madeOf {registry after : Registry} {requests : List Request}
    {faults : List String} (faithful : registry.Faithful keyMeaning)
    (keyed : ∀ request ∈ requests, IsKeyed request)
    (made : MadeOf registry after requests faults) :
    after.Faithful keyMeaning ∧ after.GrownFrom registry := by
  obtain ⟨first, isPrefix, rfl, -⟩ := made
  have keyedFirst : ∀ request ∈ first, IsKeyed request := fun request mem =>
    keyed request (isPrefix.subset mem)
  exact ⟨faithful.internAll keyedFirst, faithful.grownFrom_internAll keyedFirst⟩

theorem faithful_name {sheet : Sheet} (faithful : sheet.registry.Faithful keyMeaning)
    {sketch : Sketch} (keyed : AllKeyed sketch) :
    (name sheet sketch).2.registry.Faithful keyMeaning ∧
      (name sheet sketch).2.registry.GrownFrom sheet.registry :=
  faithful_of_madeOf faithful keyed (madeOf_name sketch sheet)

theorem faithful_nameAll {sheet : Sheet} (faithful : sheet.registry.Faithful keyMeaning)
    {sketches : List Sketch} (keyed : ∀ sketch ∈ sketches, AllKeyed sketch) :
    (nameAll sheet sketches).2.registry.Faithful keyMeaning ∧
      (nameAll sheet sketches).2.registry.GrownFrom sheet.registry := by
  refine faithful_of_madeOf faithful ?_ (madeOf_nameAll (fun sketch _ => madeOf_name sketch) sheet)
  intro request mem
  rw [requestsIn_eq_flatMap] at mem
  obtain ⟨sketch, here, asked⟩ := List.mem_flatMap.1 mem
  exact keyed sketch here request asked

/-- Classes that are asked for in four groups stand for their requests, in the order in which they
are shown. -/
theorem spelled_style {sheet : Sheet} (faithful : sheet.registry.Faithful keyMeaning)
    {styling : Styling} (keyed : ∀ request ∈ styling.requests, IsKeyed request) {later : Registry}
    (grown : later.GrownFrom (sheet.style styling).2.registry) :
    (sheet.style styling).1.mapM later.ruleText? = some (styling.shown.map Request.ruleText) := by
  simp only [Styling.requests, List.forall_mem_append] at keyed
  obtain ⟨sizing, own, layout, extra⟩ := keyed
  -- The four groups are made one after the other, and each registry has grown from the one before
  -- it.
  have afterSizing := faithful.internAll sizing
  have afterOwn := afterSizing.internAll own
  have afterLayout := afterOwn.internAll layout
  have grownLayout := grown.trans (afterLayout.grownFrom_internAll extra)
  have grownOwn := grownLayout.trans (afterOwn.grownFrom_internAll layout)
  have grownSizing := grownOwn.trans (afterSizing.grownFrom_internAll own)
  have ownTexts := afterSizing.spelled_internAll own grownOwn
  have layoutTexts := afterOwn.spelled_internAll layout grownLayout
  have sizingTexts := faithful.spelled_internAll sizing grownSizing
  have extraTexts := afterLayout.spelled_internAll extra grown
  simp only [Sheet.style, Sheet.internAll, Styling.shown, List.mapM_append, List.map_append,
    ownTexts, layoutTexts, sizingTexts, extraTexts]
  rfl

/-- Markup that a sketch is named with on the way to a registry: what is remembered before is right,
and the registry has grown from that afterwards. -/
def NamedDuring (last : Registry) (sketch : Sketch) (markup : Markup) : Prop :=
  AllKeyed sketch ∧ ∃ before after, name before sketch = (.ok markup, after) ∧
    before.registry.Faithful keyMeaning ∧ last.GrownFrom after.registry

variable {last : Registry}

theorem NamedDuring.namedAs {sketch : Sketch} {markup : Markup}
    (named : sketch.NamedDuring last markup) : sketch.NamedAs markup := by
  obtain ⟨-, before, after, named, -, -⟩ := named
  exact ⟨before, after, named⟩

/-- Naming sketches one after the other names each of them on the way. -/
theorem namedDuring_of_nameAll {sketches : List Sketch}
    (keyed : ∀ sketch ∈ sketches, AllKeyed sketch) {sheet sheet' : Sheet} {markups : List Markup}
    (faithful : sheet.registry.Faithful keyMeaning)
    (named : nameAll sheet sketches = (.ok markups, sheet'))
    (grown : last.GrownFrom sheet'.registry) :
    List.Forall₂ (NamedDuring last) sketches markups := by
  induction sketches generalizing sheet markups with
  | nil =>
    rw [nameAll_nil] at named
    cases named
    exact .nil
  | cons sketch rest ih =>
    obtain ⟨keyedFirst, keyedRest⟩ := List.forall_mem_cons.1 keyed
    obtain ⟨first, between, others, one, more, rfl⟩ := nameAll_cons_ok.1 named
    -- The rest starts from a faithful registry, and leaves one that has grown from it.
    have stepped := faithful_name faithful keyedFirst
    rw [one] at stepped
    have grownRest := faithful_nameAll stepped.1 keyedRest
    rw [more] at grownRest
    have here : sketch.NamedDuring last first :=
      ⟨keyedFirst, sheet, between, one, faithful, grown.trans grownRest.2⟩
    exact .cons here (ih keyedRest stepped.1 more)

/-- The classes of an element stand for what it asks for, in the order in which it shows them. -/
theorem NamedDuring.element {head : SketchHead} {children : List Sketch} {markup : Markup}
    (named : (Sketch.element head children).NamedDuring last markup) :
    ∃ classes kids, markup = .element ⟨head.tag, classes, head.style, head.picture⟩ kids ∧
      classes.mapM last.ruleText? = some (head.styling.shown.map Request.ruleText) ∧
      List.Forall₂ (NamedDuring last) children kids := by
  obtain ⟨keyed, before, after, named, faithful, grown⟩ := named
  obtain ⟨styled, inside⟩ := allKeyed_element_iff.1 keyed
  obtain ⟨kids, namedInside, rfl⟩ := name_element_ok.1 named
  have faithfulStyled : (styledSheet before head).registry.Faithful keyMeaning := by
    rw [registry_styledSheet]
    exact faithful.internAll styled
  have grownInside := faithful_nameAll faithfulStyled inside
  rw [namedInside] at grownInside
  rw [← registry_addFont before head.font] at faithful
  exact ⟨_, kids, rfl, spelled_style faithful styled (grown.trans grownInside.2),
    namedDuring_of_nameAll inside faithfulStyled namedInside grown⟩

/-- The class of the box of a mask stands for its shape. -/
theorem NamedDuring.masked {clip : Option Request} {style : List Css.Declaration}
    {children : List Sketch} {markup : Markup}
    (named : (Sketch.masked clip style children).NamedDuring last markup) :
    ∃ classes kids, markup = .element ⟨"div", classes, style, none⟩ kids ∧
      classes.mapM last.ruleText? = some (clip.toList.map Request.ruleText) ∧
      List.Forall₂ (NamedDuring last) children kids := by
  obtain ⟨keyed, before, after, named, faithful, grown⟩ := named
  obtain ⟨inside, shape⟩ := allKeyed_masked_iff.1 keyed
  obtain ⟨kids, between, namedInside, rfl, rfl⟩ := name_masked_ok.1 named
  have faithfulInside := faithful_nameAll faithful inside
  rw [namedInside] at faithfulInside
  have grownInside := grown.trans (faithfulInside.1.grownFrom_internAll shape)
  exact ⟨_, kids, rfl, faithfulInside.1.spelled_internAll shape grown,
    namedDuring_of_nameAll inside faithful namedInside grownInside⟩

theorem NamedDuring.text {content : String} {markup : Markup}
    (named : (Sketch.text content).NamedDuring last markup) : markup = .text content := by
  obtain ⟨-, before, after, named, -, -⟩ := named
  cases named
  rfl

theorem NamedDuring.lineBreak {markup : Markup}
    (named : Sketch.lineBreak.NamedDuring last markup) : markup = .lineBreak := by
  obtain ⟨-, before, after, named, -, -⟩ := named
  cases named
  rfl

theorem NamedDuring.not_fault {id : String} {markup : Markup} :
    ¬ (Sketch.fault id).NamedDuring last markup := by
  rintro ⟨-, before, after, named, -, -⟩
  cases named

end Sketch

end SceneMarkup
