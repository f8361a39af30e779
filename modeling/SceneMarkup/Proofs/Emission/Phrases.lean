import SceneMarkup.Proofs.Emission.ClassNames
import SceneMarkup.Proofs.Markup.ShownText
import SceneMarkup.Proofs.Stylesheet.Accounts

/-!
# Sketches of phrases

Text, line breaks and spans are named like any sketch, and stay text, line breaks and spans.

* `Registry.NamesPlainly`: the class that a registry remembers for a request is an identifier;
* `NamesPlainly.run`, `namesPlainly_sheetAfter`: it stays so after calls that do not name a class of
  the same answer otherwise, and so after the emission of trees;
* `SketchHead.IsPlain`, `Sketch.IsPhrase`: heads that are plain once their classes have names, and
  phrases of them;
* `Sketch.letters`: the text of a sketch;
* `Sketch.nameAll_phrases`: **phrases are named as phrases with the same text.**
-/

namespace SceneMarkup

open Naming (IsIdentifier)
open Picture (Assets)
open Scene (Node)
open Text (IsOf)

/-! ### Names that are remembered -/

namespace Registry

/-- The class that is remembered for a request, if there is one, is an identifier. -/
def NamesPlainly (registry : Registry) (request : Request) : Prop :=
  ∀ className, registry.recalled? request = some className → IsIdentifier className

theorem namesPlainly_empty (request : Request) : NamesPlainly {} request := by
  intro className known
  cases request with
  | utility key =>
    rw [recalled?, show ({} : Registry).utilities = {} from rfl,
      Std.TreeMap.getElem?_emptyc] at known
    cases known
  | own base declarations =>
    rw [recalled?, show ({} : Registry).signatures = {} from rfl,
      Std.TreeMap.getElem?_emptyc] at known
    cases known

variable {registry : Registry} {request : Request} {requests : List Request}

/-- A request that names its class for an identifier is answered with one. -/
theorem NamesPlainly.answer (plain : registry.NamesPlainly request)
    (base : IsIdentifier request.base) :
    IsIdentifier (registry.intern request).1 := by
  cases known : registry.recalled? request with
  | some className =>
    rw [intern_of_recalled known]
    exact plain className known
  | none =>
    rw [intern_of_unknown known]
    exact base.candidate _

/-- Only a request that shares its answer with another one can spoil the name that is remembered for
that. -/
theorem NamesPlainly.intern (plain : registry.NamesPlainly request) {other : Request}
    (base : other.Alike request → IsIdentifier other.base) :
    (registry.intern other).2.NamesPlainly request := by
  intro className known
  by_cases alike : other.Alike request
  · rw [registry.recalled?_intern_of_alike alike] at known
    have plainOther : registry.NamesPlainly other := by
      rw [NamesPlainly, recalled?_congr registry alike]
      exact plain
    exact Option.some.inj known ▸ plainOther.answer (base alike)
  · rw [registry.recalled?_intern_of_not_alike alike] at known
    exact plain className known

/-- After any calls, the name that is remembered for a request is plain if the calls that share its
answer name their classes for identifiers. -/
theorem NamesPlainly.run (plain : registry.NamesPlainly request) {calls : List Call}
    (bases : ∀ other, .intern other ∈ calls → other.Alike request → IsIdentifier other.base) :
    (registry.run calls).2.NamesPlainly request := by
  induction calls generalizing registry with
  | nil => exact plain
  | cons call rest ih =>
    rw [run_cons]
    refine ih ?_ fun other mem => bases other (List.mem_cons_of_mem _ mem)
    cases call with
    | intern other => exact plain.intern (bases other List.mem_cons_self)
    | name base =>
      intro className known
      exact plain className ((registry.recalled?_uniqueName base request).symm.trans known)

theorem NamesPlainly.internAll (plain : registry.NamesPlainly request)
    (bases : ∀ other ∈ requests, IsIdentifier other.base) :
    (registry.internAll requests).2.NamesPlainly request := by
  induction requests generalizing registry with
  | nil => exact plain
  | cons other rest ih =>
    obtain ⟨base, others⟩ := List.forall_mem_cons.1 bases
    exact ih (plain.intern fun _ => base) others

theorem isIdentifier_internAll (plain : ∀ request ∈ requests, registry.NamesPlainly request)
    (bases : ∀ request ∈ requests, IsIdentifier request.base) :
    ∀ className ∈ (registry.internAll requests).1, IsIdentifier className := by
  induction requests generalizing registry with
  | nil => exact fun _ mem => (by cases mem)
  | cons request rest ih =>
    obtain ⟨base, others⟩ := List.forall_mem_cons.1 bases
    obtain ⟨first, later⟩ := List.forall_mem_cons.1 plain
    exact List.forall_mem_cons.2
      ⟨first.answer base, ih (fun other mem => (later other mem).intern fun _ => base) others⟩

end Registry

namespace Emission

variable {options : Options} {assets : Assets} {sheet : Sheet} {request : Request}

/-- The emission of a tree keeps the names plain, whether it fails or not. -/
theorem namesPlainly_emitRoot (plain : sheet.registry.NamesPlainly request) (root : Node) :
    (emitRoot options assets sheet root).2.registry.NamesPlainly request := by
  obtain ⟨made, isPrefix, after, -⟩ := Sketch.madeOf_name (rootSketch options assets root) sheet
  rw [emitRoot, after]
  exact plain.internAll fun other asked =>
    isIdentifier_requests options assets root other (isPrefix.subset asked)

theorem namesPlainly_sheetAfter (plain : sheet.registry.NamesPlainly request) (roots : List Node) :
    (sheetAfter options assets sheet roots).registry.NamesPlainly request := by
  induction roots generalizing sheet with
  | nil => exact plain
  | cons root rest ih => exact ih (namesPlainly_emitRoot plain root)

end Emission

/-! ### Phrases -/

/-- A head that is plain once its classes have names. -/
structure SketchHead.IsPlain (head : SketchHead) : Prop where
  tag : IsOf Char.isLower head.tag
  bases : ∀ request ∈ head.styling.requests, IsIdentifier request.base
  style : Css.AllTame head.style
  picture : head.picture = none

/-- A head that is plain once its classes have names is plain where its requests have plain
names. -/
theorem SketchHead.IsPlain.styledHead {head : SketchHead} (plain : head.IsPlain) {sheet : Sheet}
    (names : ∀ request ∈ head.styling.requests, sheet.registry.NamesPlainly request) :
    (Sketch.styledHead sheet head).IsPlain where
  tag := plain.tag
  classes className mem :=
    (Registry.isIdentifier_internAll names plain.bases className
      ((Sketch.mem_classes_styledHead sheet head className).1 mem)).isClassText
  style := plain.style
  picture := plain.picture

theorem SketchHead.IsPlain.styledSheet {head : SketchHead} (plain : head.IsPlain) {sheet : Sheet}
    {request : Request} (name : sheet.registry.NamesPlainly request) :
    (Sketch.styledSheet sheet head).registry.NamesPlainly request := by
  rw [Sketch.registry_styledSheet]
  exact name.internAll plain.bases

namespace Sketch

/-- A text on one line, a line break, or a span of these with a plain head. -/
inductive IsPhrase : Sketch → Prop
  | text {content : String} (nonempty : content ≠ "") (oneLine : IsOneLine content) :
    IsPhrase (.text content)
  | lineBreak : IsPhrase .lineBreak
  | span {head : SketchHead} {children : List Sketch} (plain : head.IsPlain)
    (tag : head.tag = "span") (each : ∀ child ∈ children, IsPhrase child) :
    IsPhrase (.element head children)

/-- An element, or the box of a mask. -/
def isElement : Sketch → Bool
  | element _ _ | masked _ _ _ => true
  | text _ | lineBreak | fault _ => false

mutual

/-- The text of a sketch, with line feeds between elements next to each other if they are apart. -/
def letters (apart : Bool) : Sketch → List Char
  | text content => content.toList
  | lineBreak => ['\n']
  | element _ children | masked _ _ children => lettersIn apart children
  | fault _ => []

/-- The text of sketches one after the other. -/
def lettersIn (apart : Bool) : List Sketch → List Char
  | [] => []
  | child :: rest =>
    letters apart child ++
      (if apart && child.isElement && rest.head?.any isElement then ['\n'] else []) ++
      lettersIn apart rest

end

/-- A sketch is named as a phrase with the same text, from any sheet that remembers only plain names
for its requests, and every name that was plain stays so. -/
def NamesPhrase (sketch : Sketch) : Prop :=
  ∀ sheet : Sheet, (∀ request ∈ sketch.requests, sheet.registry.NamesPlainly request) →
    ∃ tree after, name sheet sketch = (.ok tree, after) ∧
      (∀ request, sheet.registry.NamesPlainly request →
        after.registry.NamesPlainly request) ∧ tree.IsPhrase ∧
        tree.isElement = sketch.isElement ∧ ∀ apart, tree.letters apart = sketch.letters apart

theorem nameAll_of_namesPhrase {sketches : List Sketch}
    (each : ∀ sketch ∈ sketches, sketch.NamesPhrase) {sheet : Sheet}
    (plain : ∀ request ∈ requestsIn sketches, sheet.registry.NamesPlainly request) :
    ∃ trees after, nameAll sheet sketches = (.ok trees, after) ∧
      (∀ request, sheet.registry.NamesPlainly request → after.registry.NamesPlainly request) ∧
        (∀ tree ∈ trees, tree.IsPhrase) ∧ trees.head?.any Markup.isElement =
          sketches.head?.any isElement ∧
          ∀ apart, Markup.lettersIn apart trees = lettersIn apart sketches := by
  induction sketches generalizing sheet with
  | nil => exact ⟨[], sheet, nameAll_nil sheet, fun _ => id, fun _ mem => (by cases mem), rfl,
      fun _ => rfl⟩
  | cons sketch rest ih =>
    obtain ⟨first, others⟩ := List.forall_mem_cons.1 each
    rw [requestsIn, List.forall_mem_append] at plain
    obtain ⟨tree, between, named, keeps, phrase, element, text⟩ := first sheet plain.1
    obtain ⟨trees, after, namedRest, keepsRest, phrases, next, texts⟩ :=
      ih others fun request asked => keeps request (plain.2 request asked)
    refine ⟨tree :: trees, after, nameAll_cons_ok.2 ⟨tree, between, trees, named, namedRest, rfl⟩,
      fun request before => keepsRest request (keeps request before),
      List.forall_mem_cons.2 ⟨phrase, phrases⟩, element, fun apart => ?_⟩
    rw [Markup.lettersIn, lettersIn, text, texts, element, next]

/-- Phrases are named as phrases with the same text. -/
theorem IsPhrase.namesPhrase {sketch : Sketch} (phrase : sketch.IsPhrase) : sketch.NamesPhrase := by
  induction phrase with
  | @text content nonempty oneLine =>
    exact fun sheet _ => ⟨.text content, sheet, rfl, fun _ => id, .text nonempty oneLine, rfl,
      fun _ => rfl⟩
  | lineBreak =>
    exact fun sheet _ => ⟨.lineBreak, sheet, rfl, fun _ => id, .lineBreak, rfl, fun _ => rfl⟩
  | @span head children plainHead tag each ih =>
    intro sheet plain
    rw [requests, List.forall_mem_append] at plain
    obtain ⟨trees, after, named, keeps, phrases, -, texts⟩ :=
      nameAll_of_namesPhrase ih fun request asked => plainHead.styledSheet (plain.2 request asked)
    exact ⟨.element (styledHead sheet head) trees, after, name_element_ok.2 ⟨trees, named, rfl⟩,
      fun request before => keeps request (plainHead.styledSheet before),
      .span (plainHead.styledHead plain.1) tag phrases, rfl, texts⟩

/-- **Phrases are named as phrases with the same text**, wherever only plain names are remembered
for their requests, and names that were plain stay so. -/
theorem nameAll_phrases {sketches : List Sketch} (phrases : ∀ sketch ∈ sketches, sketch.IsPhrase)
    {sheet : Sheet} (plain : ∀ request ∈ requestsIn sketches, sheet.registry.NamesPlainly request) :
    ∃ trees after, nameAll sheet sketches = (.ok trees, after) ∧
      (∀ request, sheet.registry.NamesPlainly request → after.registry.NamesPlainly request) ∧
        (∀ tree ∈ trees, tree.IsPhrase) ∧ ∀ apart,
          Markup.lettersIn apart trees = lettersIn apart sketches := by
  obtain ⟨trees, after, named, keeps, each, -, texts⟩ :=
    nameAll_of_namesPhrase (fun sketch mem => (phrases sketch mem).namesPhrase) plain
  exact ⟨trees, after, named, keeps, each, texts⟩

end Sketch

end SceneMarkup
