import Mathlib.Data.List.Forall2
import Mathlib.Data.List.Infix
import SceneMarkup.Emission.Sketch
import SceneMarkup.Proofs.Stylesheet.Interning

/-!
# Naming a sketch

Naming makes the requests of a sketch one after the other, in an order that the sketch alone
decides, and stops at its first fault.

* `Sketch.induct`: induction on sketches, with the claim for every child at hand;
* `Sketch.faults`, `Sketch.requests`: both of a sketch, in the order in which naming meets them;
* `name_element_ok`, `name_masked_ok`, `nameAll_cons_ok`: what a success is made of;
* `name_fst_eq_error_iff`: naming fails exactly at the first fault;
* `madeOf_name`: the registry afterwards comes from interning the requests up to there.
-/

namespace SceneMarkup

namespace Sketch

/-- Induction on sketches, with the claim for every child at hand. -/
@[elab_as_elim]
theorem induct {motive : Sketch → Prop}
    (element : ∀ head children, (∀ child ∈ children, motive child) →
      motive (.element head children))
    (masked : ∀ clip style children, (∀ child ∈ children, motive child) →
      motive (.masked clip style children))
    (text : ∀ content, motive (.text content)) (lineBreak : motive .lineBreak)
    (fault : ∀ id, motive (.fault id)) : ∀ sketch, motive sketch
  | .element head children =>
    element head children fun child _ => induct element masked text lineBreak fault child
  | .masked clip style children =>
    masked clip style children fun child _ => induct element masked text lineBreak fault child
  | .text content => text content
  | .lineBreak => lineBreak
  | .fault id => fault id

/-! ### Faults and requests -/

mutual

/-- The faults of a sketch, in document order. -/
def faults : Sketch → List String
  | element _ children => faultsIn children
  | masked _ _ children => faultsIn children
  | text _ | lineBreak => []
  | fault id => [id]

/-- The faults of sketches one after the other. -/
def faultsIn : List Sketch → List String
  | [] => []
  | sketch :: rest => faults sketch ++ faultsIn rest

end

theorem faultsIn_eq_flatMap (sketches : List Sketch) :
    faultsIn sketches = sketches.flatMap faults := by
  induction sketches with
  | nil => rfl
  | cons sketch rest ih => rw [faultsIn, List.flatMap_cons, ih]

end Sketch

/-- The requests of an element, in the order in which they are made. -/
def Styling.requests (styling : Styling) : List Request :=
  styling.sizing ++ (styling.own.toList ++ (styling.layout ++ styling.extra))

/-- The requests of an element, in the order in which their classes are shown. -/
def Styling.shown (styling : Styling) : List Request :=
  styling.own.toList ++ styling.layout ++ styling.sizing ++ styling.extra

namespace Sketch

mutual

/-- The requests of a sketch, in the order in which they are made. -/
def requests : Sketch → List Request
  | element head children => head.styling.requests ++ requestsIn children
  | masked clip _ children => requestsIn children ++ clip.toList
  | text _ | lineBreak | fault _ => []

/-- The requests of sketches one after the other. -/
def requestsIn : List Sketch → List Request
  | [] => []
  | sketch :: rest => requests sketch ++ requestsIn rest

end

theorem requestsIn_eq_flatMap (sketches : List Sketch) :
    requestsIn sketches = sketches.flatMap requests := by
  induction sketches with
  | nil => rfl
  | cons sketch rest ih => rw [requestsIn, List.flatMap_cons, ih]

/-! ### What a success is made of -/

/-- The sheet after an element has asked for its font and its classes. -/
def styledSheet (sheet : Sheet) (head : SketchHead) : Sheet :=
  ((sheet.addFont head.font).style head.styling).2

/-- The opening tag of an element whose classes have names. -/
def styledHead (sheet : Sheet) (head : SketchHead) : Head :=
  ⟨head.tag, ((sheet.addFont head.font).style head.styling).1, head.style, head.picture⟩

theorem name_element (sheet : Sheet) (head : SketchHead) (children : List Sketch) :
    name sheet (.element head children) =
      match nameAll (styledSheet sheet head) children with
      | (.ok kids, after) => (.ok (.element (styledHead sheet head) kids), after)
      | (.error id, after) => (.error id, after) := by
  rw [name]
  rfl

theorem name_element_ok {sheet sheet' : Sheet} {head : SketchHead} {children : List Sketch}
    {markup : Markup} :
    name sheet (.element head children) = (.ok markup, sheet') ↔
      ∃ kids, nameAll (styledSheet sheet head) children = (.ok kids, sheet') ∧
        markup = .element (styledHead sheet head) kids := by
  rw [name_element]
  rcases nameAll (styledSheet sheet head) children with ⟨_ | kids, after⟩
  · simp
  · simp only [Prod.mk.injEq, Except.ok.injEq]
    constructor
    · rintro ⟨rfl, rfl⟩
      exact ⟨kids, ⟨rfl, rfl⟩, rfl⟩
    · rintro ⟨_, ⟨rfl, rfl⟩, rfl⟩
      exact ⟨rfl, rfl⟩

theorem name_masked_ok {sheet sheet' : Sheet} {clip : Option Request}
    {style : List Css.Declaration} {children : List Sketch} {markup : Markup} :
    name sheet (.masked clip style children) = (.ok markup, sheet') ↔
      ∃ kids after, nameAll sheet children = (.ok kids, after) ∧
        sheet' = (after.internAll clip.toList).2 ∧
        markup = .element ⟨"div", (after.internAll clip.toList).1, style, none⟩ kids := by
  rw [name]
  rcases nameAll sheet children with ⟨_ | kids, after⟩
  · simp
  · simp only [Prod.mk.injEq, Except.ok.injEq]
    constructor
    · rintro ⟨rfl, rfl⟩
      exact ⟨kids, after, ⟨rfl, rfl⟩, rfl, rfl⟩
    · rintro ⟨_, _, ⟨rfl, rfl⟩, rfl, rfl⟩
      exact ⟨rfl, rfl⟩

theorem nameAll_nil (sheet : Sheet) : nameAll sheet [] = (.ok [], sheet) := rfl

theorem nameAll_cons_ok {sheet sheet' : Sheet} {sketch : Sketch} {rest : List Sketch}
    {markups : List Markup} :
    nameAll sheet (sketch :: rest) = (.ok markups, sheet') ↔
      ∃ first between others, name sheet sketch = (.ok first, between) ∧
        nameAll between rest = (.ok others, sheet') ∧ markups = first :: others := by
  rw [nameAll]
  rcases name sheet sketch with ⟨_ | first, between⟩
  · simp
  · rcases named : nameAll between rest with ⟨_ | others, after⟩
    · simp [named]
    · simp only [named, Prod.mk.injEq, Except.ok.injEq]
      constructor
      · rintro ⟨rfl, rfl⟩
        exact ⟨first, between, others, ⟨rfl, rfl⟩, named, rfl⟩
      · rintro ⟨_, _, _, ⟨rfl, rfl⟩, again, rfl⟩
        rw [named] at again
        cases again
        exact ⟨rfl, rfl⟩

/-- A sketch has some markup as its name, from some sheet on. -/
def NamedAs (sketch : Sketch) (markup : Markup) : Prop :=
  ∃ before after, name before sketch = (.ok markup, after)

/-- Naming sketches one after the other names each of them. -/
theorem forall₂_of_nameAll {sheet sheet' : Sheet} {sketches : List Sketch} {markups : List Markup}
    (named : nameAll sheet sketches = (.ok markups, sheet')) :
    List.Forall₂ NamedAs sketches markups := by
  induction sketches generalizing sheet markups with
  | nil =>
    rw [nameAll_nil] at named
    cases named
    exact .nil
  | cons sketch rest ih =>
    obtain ⟨first, between, others, one, more, rfl⟩ := nameAll_cons_ok.1 named
    exact .cons ⟨sheet, between, one⟩ (ih more)

/-! ### The first fault -/

/-- Naming an element fails as naming its children does. -/
theorem name_element_error {sheet : Sheet} {head : SketchHead} {children : List Sketch}
    {id : String} : (name sheet (.element head children)).1 = .error id ↔
      (nameAll (styledSheet sheet head) children).1 = .error id := by
  rw [name_element]
  rcases nameAll (styledSheet sheet head) children with ⟨_ | kids, after⟩ <;> simp

theorem name_masked_error {sheet : Sheet} {clip : Option Request} {style : List Css.Declaration}
    {children : List Sketch} {id : String} :
    (name sheet (.masked clip style children)).1 = .error id ↔
      (nameAll sheet children).1 = .error id := by
  rw [name]
  rcases nameAll sheet children with ⟨_ | kids, after⟩ <;> simp

theorem nameAll_cons_error {sheet : Sheet} {sketch : Sketch} {rest : List Sketch} {id : String} :
    (nameAll sheet (sketch :: rest)).1 = .error id ↔
      (name sheet sketch).1 = .error id ∨
        ∃ markup, (name sheet sketch).1 = .ok markup ∧
          (nameAll (name sheet sketch).2 rest).1 = .error id := by
  rw [nameAll]
  rcases name sheet sketch with ⟨other | first, between⟩
  · simp
  · rcases named : nameAll between rest with ⟨_ | others, after⟩ <;> simp [named]

theorem nameAll_error_of_each {sketches : List Sketch}
    (each : ∀ sketch ∈ sketches, ∀ sheet id,
      (name sheet sketch).1 = .error id ↔ sketch.faults.head? = some id)
    (sheet : Sheet) (id : String) :
    (nameAll sheet sketches).1 = .error id ↔ (faultsIn sketches).head? = some id := by
  induction sketches generalizing sheet with
  | nil => simp [nameAll_nil, faultsIn]
  | cons sketch rest ih =>
    obtain ⟨first, others⟩ := List.forall_mem_cons.1 each
    rw [nameAll_cons_error, faultsIn, List.head?_append, first]
    cases fault : sketch.faults.head? with
    | some other =>
      have failed := (first sheet other).2 fault
      simp [failed]
    | none =>
      -- Nothing is wrong with the first, so the rest is named, from the sheet that it leaves.
      have named : ∃ markup, (name sheet sketch).1 = .ok markup := by
        cases result : (name sheet sketch).1 with
        | error other => rw [(first sheet other).1 result] at fault; cases fault
        | ok markup => exact ⟨markup, rfl⟩
      obtain ⟨markup, named⟩ := named
      simp [named, ih others]

/-- Naming a sketch fails exactly at its first fault. -/
theorem name_fst_eq_error_iff (sketch : Sketch) :
    ∀ sheet id, (name sheet sketch).1 = .error id ↔ sketch.faults.head? = some id := by
  induction sketch using induct with
  | element head children ih =>
    intro sheet id
    rw [name_element_error, nameAll_error_of_each ih, faults]
  | masked clip style children ih =>
    intro sheet id
    rw [name_masked_error, nameAll_error_of_each ih, faults]
  | text content => intro sheet id; simp [name, faults]
  | lineBreak => intro sheet id; simp [name, faults]
  | fault other => intro sheet id; simp [name, faults]

theorem nameAll_fst_eq_error_iff (sheet : Sheet) (sketches : List Sketch) (id : String) :
    (nameAll sheet sketches).1 = .error id ↔ (faultsIn sketches).head? = some id :=
  nameAll_error_of_each (fun sketch _ => name_fst_eq_error_iff sketch) sheet id

/-- What fails exactly at its first fault succeeds exactly without faults. -/
theorem exists_ok_iff_of_error_iff {α : Type} {result : Except String α} {faults : List String}
    (h : ∀ id, result = .error id ↔ faults.head? = some id) :
    (∃ value, result = .ok value) ↔ faults = [] := by
  cases result with
  | error id =>
    have fault := (h id).1 rfl
    refine ⟨fun ⟨value, same⟩ => (by cases same), fun empty => ?_⟩
    rw [empty] at fault
    cases fault
  | ok value =>
    refine ⟨fun _ => ?_, fun _ => ⟨value, rfl⟩⟩
    refine List.head?_eq_none_iff.1 (Option.eq_none_iff_forall_ne_some.2 fun id fault => ?_)
    cases (h id).2 fault

theorem exists_name_ok_iff (sheet : Sheet) (sketch : Sketch) :
    (∃ markup, (name sheet sketch).1 = .ok markup) ↔ sketch.faults = [] :=
  exists_ok_iff_of_error_iff (name_fst_eq_error_iff sketch sheet)

theorem exists_nameAll_ok_iff (sheet : Sheet) (sketches : List Sketch) :
    (∃ markups, (nameAll sheet sketches).1 = .ok markups) ↔ faultsIn sketches = [] :=
  exists_ok_iff_of_error_iff (nameAll_fst_eq_error_iff sheet sketches)

/-- Sketches without faults are named. -/
theorem exists_nameAll_eq {sketches : List Sketch} (sound : faultsIn sketches = [])
    (sheet : Sheet) :
    ∃ markups sheet', nameAll sheet sketches = (.ok markups, sheet') := by
  obtain ⟨markups, succeeds⟩ := (exists_nameAll_ok_iff sheet sketches).2 sound
  exact ⟨markups, _, Prod.ext succeeds rfl⟩

/-! ### The sheet afterwards -/

theorem name_element_snd (sheet : Sheet) (head : SketchHead) (children : List Sketch) :
    (name sheet (.element head children)).2 = (nameAll (styledSheet sheet head) children).2 := by
  rw [name_element]
  rcases nameAll (styledSheet sheet head) children with ⟨_ | _, _⟩ <;> rfl

theorem name_masked_snd (sheet : Sheet) (clip : Option Request) (style : List Css.Declaration)
    (children : List Sketch) :
    (name sheet (.masked clip style children)).2 =
      if faultsIn children = [] then ((nameAll sheet children).2.internAll clip.toList).2
      else (nameAll sheet children).2 := by
  -- The class of the box is asked for last, so it is not if anything in the box fails.
  have succeeds := exists_nameAll_ok_iff sheet children
  rw [name]
  rcases result : nameAll sheet children with ⟨id | kids, after⟩
  · rw [if_neg fun sound => ?_]
    obtain ⟨kids, named⟩ := succeeds.2 sound
    rw [result] at named
    cases named
  · rw [if_pos (succeeds.1 ⟨kids, by rw [result]⟩)]

theorem nameAll_cons_snd (sheet : Sheet) (sketch : Sketch) (rest : List Sketch) :
    (nameAll sheet (sketch :: rest)).2 =
      if sketch.faults = [] then (nameAll (name sheet sketch).2 rest).2
        else (name sheet sketch).2 := by
  have succeeds := exists_name_ok_iff sheet sketch
  rw [nameAll]
  rcases result : name sheet sketch with ⟨id | markup, between⟩
  · rw [if_neg fun sound => ?_]
    obtain ⟨markup, named⟩ := succeeds.2 sound
    rw [result] at named
    cases named
  · rw [if_pos (succeeds.1 ⟨markup, by rw [result]⟩)]
    rcases named : nameAll between rest with ⟨_ | _, _⟩ <;> simp [named]

/-! ### The registry afterwards -/

theorem registry_addFont (sheet : Sheet) (font : Option (String × Nat)) :
    (sheet.addFont font).registry = sheet.registry := by
  cases font with
  | none => rfl
  | some font => rfl

theorem registry_styledSheet (sheet : Sheet) (head : SketchHead) :
    (styledSheet sheet head).registry = (sheet.registry.internAll head.styling.requests).2 := by
  rw [Styling.requests, Registry.internAll_append, Registry.internAll_append,
    Registry.internAll_append, ← registry_addFont sheet head.font]
  rfl

/-- Some requests of a list, from the first on, and all of them if nothing is wrong. -/
def MadeOf (registry after : Registry) (requests : List Request) (faults : List String) : Prop :=
  ∃ made, made <+: requests ∧ after = (registry.internAll made).2 ∧ (faults = [] → made = requests)

/-- More requests behind those that were all made, or none behind those that were not. -/
theorem MadeOf.append {registry between after : Registry} {first second : List Request}
    {firstFaults secondFaults : List String} (made : MadeOf registry between first firstFaults)
    (more : firstFaults = [] → MadeOf between after second secondFaults)
    (stopped : firstFaults ≠ [] → after = between) :
    MadeOf registry after (first ++ second) (firstFaults ++ secondFaults) := by
  obtain ⟨madeFirst, isPrefix, rfl, all⟩ := made
  by_cases sound : firstFaults = []
  · -- All of the first were made, so those of the second that were made follow them.
    obtain ⟨madeSecond, isPrefixToo, rfl, allToo⟩ := more sound
    obtain rfl := all sound
    refine ⟨madeFirst ++ madeSecond, List.prefix_append_right_inj _ |>.2 isPrefixToo, ?_, ?_⟩
    · rw [Registry.internAll_append]
    · intro empty
      rw [allToo (List.append_eq_nil_iff.1 empty).2]
  · refine ⟨madeFirst, isPrefix.trans (List.prefix_append _ _), stopped sound, ?_⟩
    intro empty
    exact absurd (List.append_eq_nil_iff.1 empty).1 sound

theorem MadeOf.refl (registry : Registry) (faults : List String) :
    MadeOf registry registry [] faults :=
  ⟨[], List.prefix_rfl, rfl, fun _ => rfl⟩

theorem MadeOf.all (registry : Registry) (requests : List Request) (faults : List String) :
    MadeOf registry (registry.internAll requests).2 requests faults :=
  ⟨requests, List.prefix_rfl, rfl, fun _ => rfl⟩

theorem madeOf_nameAll {sketches : List Sketch}
    (each : ∀ sketch ∈ sketches, ∀ sheet : Sheet,
      MadeOf sheet.registry (name sheet sketch).2.registry sketch.requests sketch.faults)
    (sheet : Sheet) :
    MadeOf sheet.registry (nameAll sheet sketches).2.registry (requestsIn sketches)
      (faultsIn sketches) := by
  induction sketches generalizing sheet with
  | nil => exact MadeOf.refl _ _
  | cons sketch rest ih =>
    obtain ⟨first, others⟩ := List.forall_mem_cons.1 each
    rw [nameAll_cons_snd]
    refine (first sheet).append (fun sound => ?_) (fun faulty => ?_)
    · rw [if_pos sound]
      exact ih others _
    · rw [if_neg faulty]

/-- The registry after naming a sketch comes from interning its requests up to the first fault. -/
theorem madeOf_name (sketch : Sketch) : ∀ sheet : Sheet,
    MadeOf sheet.registry (name sheet sketch).2.registry sketch.requests sketch.faults := by
  induction sketch using induct with
  | element head children ih =>
    intro sheet
    have styled := MadeOf.all sheet.registry head.styling.requests []
    rw [← registry_styledSheet] at styled
    rw [name_element_snd]
    exact styled.append (fun _ => madeOf_nameAll ih _) (fun faulty => absurd rfl faulty)
  | masked clip style children ih =>
    intro sheet
    rw [name_masked_snd, requests, faults, ← List.append_nil (faultsIn children)]
    refine (madeOf_nameAll ih sheet).append (fun sound => ?_) (fun faulty => ?_)
    · rw [if_pos (by rw [sound, List.append_nil])]
      exact MadeOf.all _ _ _
    · rw [if_neg (by rwa [List.append_nil])]
  | text content => intro sheet; exact MadeOf.refl _ _
  | lineBreak => intro sheet; exact MadeOf.refl _ _
  | fault id => intro sheet; exact MadeOf.refl _ _

end Sketch

end SceneMarkup
