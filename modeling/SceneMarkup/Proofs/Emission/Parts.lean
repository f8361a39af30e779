import SceneMarkup.Proofs.Emission.Growth
import SceneMarkup.Proofs.Emission.Slots

/-!
# The parts of a tree

* `Sketch.parts`, `Markup.subtrees`: a tree and everything in it, in document order;
* `Sketch.Descends`, `Descends.parts`: what relates sketches to markup, and so each part of a sketch
  to a part of its markup, as naming does;
* `sublistForall₂_parts`: every node that emission meets is a part of the tree, in order, shown in
  its slot.
-/

namespace SceneMarkup

namespace Markup

mutual

/-- A tree and every tree in it, in document order. -/
def subtrees : Markup → List Markup
  | element head children => element head children :: subtreesIn children
  | text content => [text content]
  | lineBreak => [lineBreak]

/-- Trees one after the other, each with every tree in it. -/
def subtreesIn : List Markup → List Markup
  | [] => []
  | markup :: rest => subtrees markup ++ subtreesIn rest

end

/-- The style of an element. -/
def style : Markup → List Css.Declaration
  | element head _ => head.style
  | text _ | lineBreak => []

/-- What is in an element. -/
def children : Markup → List Markup
  | element _ children => children
  | text _ | lineBreak => []

end Markup

namespace Sketch

/-- The style of an element. -/
def style : Sketch → List Css.Declaration
  | element head _ => head.style
  | masked _ style _ => style
  | text _ | lineBreak | fault _ => []

/-- What is in an element. -/
def children : Sketch → List Sketch
  | element _ children => children
  | masked _ _ children => children
  | text _ | lineBreak | fault _ => []

mutual

/-- A sketch and every sketch in it, in document order. -/
def parts : Sketch → List Sketch
  | element head children => element head children :: partsIn children
  | masked clip style children => masked clip style children :: partsIn children
  | text content => [text content]
  | lineBreak => [lineBreak]
  | fault id => [fault id]

/-- Sketches one after the other, each with every sketch in it. -/
def partsIn : List Sketch → List Sketch
  | [] => []
  | sketch :: rest => parts sketch ++ partsIn rest

end

theorem partsIn_eq_flatMap (sketches : List Sketch) :
    partsIn sketches = sketches.flatMap parts := by
  induction sketches with
  | nil => rfl
  | cons sketch rest ih => rw [partsIn, List.flatMap_cons, ih]

/-- The first part of a sketch is the sketch itself. -/
theorem exists_parts_eq (sketch : Sketch) : ∃ rest, sketch.parts = sketch :: rest := by
  cases sketch with
  | element head children => exact ⟨partsIn children, rfl⟩
  | masked clip style children => exact ⟨partsIn children, rfl⟩
  | text content => exact ⟨[], rfl⟩
  | lineBreak => exact ⟨[], rfl⟩
  | fault id => exact ⟨[], rfl⟩

/-- What holds of an element and of everything in it. -/
theorem forall_mem_parts_element {motive : Sketch → Prop} {head : SketchHead}
    {children : List Sketch} : (∀ part ∈ (element head children).parts, motive part) ↔
      motive (.element head children) ∧ ∀ child ∈ children, ∀ part ∈ child.parts, motive part := by
  rw [parts, partsIn_eq_flatMap, List.forall_mem_cons, List.forall_mem_flatMap]

/-- What holds of the box of a mask and of everything in it. -/
theorem forall_mem_parts_masked {motive : Sketch → Prop} {clip : Option Request}
    {style : List Css.Declaration} {children : List Sketch} :
    (∀ part ∈ (masked clip style children).parts, motive part) ↔
      motive (.masked clip style children) ∧ ∀ child ∈ children, ∀ part ∈ child.parts,
        motive part := by
  rw [parts, partsIn_eq_flatMap, List.forall_mem_cons, List.forall_mem_flatMap]

/-! ### Sketches and their markup -/

/-- Markup that is related to a sketch has the same elements, but for their classes, and what is in
them is related, too. -/
structure Descends (R : Sketch → Markup → Prop) : Prop where
  element : ∀ {head children markup}, R (.element head children) markup → ∃ classes kids,
    markup = .element ⟨head.tag, classes, head.style, head.picture⟩ kids ∧
      List.Forall₂ R children kids
  masked : ∀ {clip style children markup}, R (.masked clip style children) markup → ∃ classes kids,
    markup = .element ⟨"div", classes, style, none⟩ kids ∧ List.Forall₂ R children kids
  text : ∀ {content markup}, R (.text content) markup → markup = .text content
  lineBreak : ∀ {markup}, R .lineBreak markup → markup = .lineBreak
  fault : ∀ {id markup}, ¬ R (.fault id) markup

theorem descends_namedAs : Descends NamedAs where
  element := by
    rintro head children markup ⟨before, after, named⟩
    obtain ⟨kids, inside, rfl⟩ := name_element_ok.1 named
    exact ⟨_, kids, rfl, forall₂_of_nameAll inside⟩
  masked := by
    rintro clip style children markup ⟨before, after, named⟩
    obtain ⟨kids, between, inside, -, rfl⟩ := name_masked_ok.1 named
    exact ⟨_, kids, rfl, forall₂_of_nameAll inside⟩
  text := by
    rintro content markup ⟨before, after, named⟩
    cases named
    rfl
  lineBreak := by
    rintro markup ⟨before, after, named⟩
    cases named
    rfl
  fault := by
    rintro id markup ⟨before, after, named⟩
    cases named

theorem descends_namedDuring (last : Registry) : Descends (NamedDuring last) where
  element := fun named => by
    obtain ⟨classes, kids, same, -, inside⟩ := named.element
    exact ⟨classes, kids, same, inside⟩
  masked := fun named => by
    obtain ⟨classes, kids, same, -, inside⟩ := named.masked
    exact ⟨classes, kids, same, inside⟩
  text := NamedDuring.text
  lineBreak := NamedDuring.lineBreak
  fault := NamedDuring.not_fault

section Descends

variable {R : Sketch → Markup → Prop}

theorem Descends.forall₂_partsIn {sketches : List Sketch}
    (each : ∀ sketch ∈ sketches, ∀ markup, R sketch markup →
      List.Forall₂ R sketch.parts markup.subtrees)
    {markups : List Markup} (related : List.Forall₂ R sketches markups) :
    List.Forall₂ R (partsIn sketches) (Markup.subtreesIn markups) := by
  induction related with
  | nil => exact .nil
  | cons here _ ih =>
    obtain ⟨eachFirst, eachRest⟩ := List.forall_mem_cons.1 each
    exact List.rel_append (eachFirst _ here) (ih eachRest)

/-- Everything in a sketch is related to what is in its markup, one by one. -/
theorem Descends.parts (descends : Descends R) (sketch : Sketch) : ∀ markup, R sketch markup →
    List.Forall₂ R sketch.parts markup.subtrees := by
  induction sketch using induct with
  | element head children ih =>
    intro markup related
    obtain ⟨classes, kids, rfl, inside⟩ := descends.element related
    exact .cons related (forall₂_partsIn ih inside)
  | masked clip style children ih =>
    intro markup related
    obtain ⟨classes, kids, rfl, inside⟩ := descends.masked related
    exact .cons related (forall₂_partsIn ih inside)
  | text content =>
    intro markup related
    obtain rfl := descends.text related
    exact .cons related .nil
  | lineBreak =>
    intro markup related
    obtain rfl := descends.lineBreak related
    exact .cons related .nil
  | fault id =>
    intro markup related
    exact absurd related descends.fault

/-- A sketch and its markup have the same style, and what is in them is related. -/
theorem Descends.style_children (descends : Descends R) {sketch : Sketch} {markup : Markup}
    (related : R sketch markup) :
    markup.style = sketch.style ∧ List.Forall₂ R sketch.children markup.children := by
  cases sketch with
  | element head children =>
    obtain ⟨classes, kids, rfl, inside⟩ := descends.element related
    exact ⟨rfl, inside⟩
  | masked clip style children =>
    obtain ⟨classes, kids, rfl, inside⟩ := descends.masked related
    exact ⟨rfl, inside⟩
  | text content =>
    obtain rfl := descends.text related
    exact ⟨rfl, .nil⟩
  | lineBreak =>
    obtain rfl := descends.lineBreak related
    exact ⟨rfl, .nil⟩
  | fault id => exact absurd related descends.fault

end Descends

/-- Naming a sketch names each of its parts. -/
theorem NamedDuring.parts {last : Registry} {sketch : Sketch} {markup : Markup}
    (named : sketch.NamedDuring last markup) :
    List.Forall₂ (NamedDuring last) sketch.parts markup.subtrees :=
  (descends_namedDuring last).parts sketch markup named

end Sketch

/-! ### What emission meets -/

namespace Emission

open Scene (Layer Node Visit shownIn visitsAt)
open Picture (Assets)

variable {options : Options} {assets : Assets}

/-- A sketch of what is met on the way down from a node in a slot, in its own slot. -/
def IsDrawn (options : Options) (assets : Assets) (address : List Nat) (node : Node) (slot : Slot)
    (visit : Visit) (sketch : Sketch) : Prop :=
  ∃ place, Slotted address node slot visit place ∧ sketch = drawn options assets visit.2 place

/-- The nodes that are met in a container are parts of what it shows, in order. -/
theorem sublistForall₂_partsIn {layer : Layer} (goes : layer.isContainer = true)
    {children : List Node} {address : List Nat} (slot : Slot)
    (each : ∀ child ∈ shownIn children, ∀ place,
      List.SublistForall₂ (IsDrawn options assets (child.2 :: address) child.1 place)
        (emissionVisits (child.2 :: address) child.1) (drawn options assets child.1 place).parts) :
    List.SublistForall₂ (IsDrawn options assets address (.mk layer children) slot)
      ((shownIn children).flatMap fun child => emissionVisits (child.2 :: address) child.1)
      (Sketch.partsIn (childSketches options layer (members options assets children))) := by
  obtain ⟨container, isContainer⟩ := isContainer_iff.1 goes
  rw [childSketches_eq options assets isContainer, Sketch.partsIn_eq_flatMap, List.flatMap_map,
    ← flatMap_shown_members options assets children, List.flatMap_assoc]
  refine sublistForall₂_flatMap fun piece made => ?_
  have inside : ∀ child ∈ piece.shown,
      List.SublistForall₂ (IsDrawn options assets address (.mk layer children) slot)
        (emissionVisits (child.2 :: address) child.1)
        (drawn options assets child.1
          (piece.slot layer container children child.1 child.2)).parts := by
    intro child shown
    have slotIn := Piece.slotIn isContainer made shown
    refine sublistForall₂_imp (each child (mem_shownIn made shown) _) ?_
    rintro visit - sketch ⟨place, met, same⟩
    exact ⟨place, met.of_child (mem_shownIn made shown) slotIn, same⟩
  cases piece with
  | own child index =>
    rw [Piece.shown, List.flatMap_singleton]
    exact inside (child, index) (List.mem_singleton_self _)
  | wrapper mask i covered =>
    rw [Piece.sketch, Sketch.parts, Sketch.partsIn_eq_flatMap, Piece.contents, List.flatMap_map]
    exact .cons_right (sublistForall₂_flatMap fun child shown => inside child shown)

/-- Every node that emission meets is a part of the tree, in order, shown in its slot. -/
theorem sublistForall₂_parts (node : Node) : ∀ slot address,
    List.SublistForall₂ (IsDrawn options assets address node slot) (emissionVisits address node)
      (drawn options assets node slot).parts := by
  induction node using Node.induct with
  | mk layer children ih =>
    intro slot address
    have itself :
        IsDrawn options assets address (.mk layer children) slot (address, .mk layer children)
        (drawn options assets (.mk layer children) slot) := ⟨slot, .start, rfl⟩
    rw [emissionVisits_mk]
    by_cases goes : (layer.isContainer && !isFaulty layer) = true
    · obtain ⟨container, sound⟩ := Bool.and_eq_true_iff.1 goes
      rw [Bool.not_eq_true'] at sound
      rw [if_pos goes]
      rw [drawn_of_isContainer sound container, containerSketch] at itself ⊢
      refine .cons itself (sublistForall₂_partsIn container slot fun child mem place => ?_)
      exact ih child.1 (Scene.mem_children_of_mem_shownIn mem) place (child.2 :: address)
    · obtain ⟨rest, first⟩ :=
        Sketch.exists_parts_eq (drawn options assets (.mk layer children) slot)
      rw [if_neg goes, first]
      exact .cons itself .nil

/-- Every node of a tree without faults that emission meets has an element of its own in the tree,
in order, shown in its slot. -/
theorem sublistForall₂_subtrees {last : Registry} {root : Node} {tree : Markup}
    (sound : ∀ node ∈ reached root, isFaulty node.layer = false)
    (named : (rootSketch options assets root).NamedDuring last tree) :
    List.SublistForall₂ (fun visit element => ∃ place, Slotted [] root .root visit place ∧
        (drawn options assets visit.2 place).NamedDuring last element)
      (visitsAt Layer.isContainer [] root) tree.subtrees := by
  have met : List.SublistForall₂ (IsDrawn options assets [] root .root) (emissionVisits [] root)
      (rootSketch options assets root).parts := sublistForall₂_parts root .root []
  rw [emissionVisits_eq sound] at met
  refine sublistForall₂_imp (sublistForall₂_trans met named.parts) ?_
  rintro visit - element ⟨_, ⟨place, slotted, rfl⟩, here⟩
  exact ⟨place, slotted, here⟩

end Emission

end SceneMarkup
