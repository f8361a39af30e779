import Mathlib.Data.List.TakeWhile
import SceneMarkup.Proofs.Css.Lines
import SceneMarkup.Proofs.Css.Shorthand
import SceneMarkup.Proofs.Stylesheet.Interning

/-!
# What a rule may declare

Requests share a class by their text, and a text may be that of different declarations, since a
value may hold any characters. So of the rule of a class only its text is known. But the first
property can be told from the text, and from the first property which others there may be. Sizes
come first, on one line each, so which of them there are can be told from the text, too.

* `sizeProperties`, `paintProperties`, `clipProperties`, `family`: the properties that may follow a
  first one;
* `SizesFirst`, `SizesFirst.map_property_eq`: sizes in front of all else, and that the text tells
  them;
* `Orderly`: declarations of different properties, all of the family of the first, sizes in front;
* `Request.family`, `Request.Within`: the family of what a request declares, which only depends on
  its text;
* `Registry.AllOrderly`: the rules of a registry are orderly, which interning orderly requests
  keeps;
* `AllOrderly.rule`: a rule with the text of a request declares nothing outside of the family of the
  request, and nothing twice;
* `AllOrderly.size_mem_iff`: and it declares the sizes that the request declares.
-/

namespace SceneMarkup

open Css (Declaration IsPlain lineProperty)

/-! ### Families of properties -/

/-- The properties of the size of a box. -/
def sizeProperties : List String := ["width", "height"]

/-- What nodes paint. -/
def paintProperties : List String :=
  ["background", "outline", "outline-offset", "border", "border-radius", "box-shadow", "filter",
    "backdrop-filter", "opacity", "mix-blend-mode", "overflow", "font-family", "font-weight",
    "font-style", "line-height", "letter-spacing", "text-align", "text-transform", "font-variant",
    "text-decoration", "white-space", "text-overflow", "-webkit-background-clip", "background-clip",
    "color", "text-shadow"]

/-- The properties of the shape of a mask. -/
def clipProperties : List String := ["clip-path", "-webkit-mask-image", "mask-image"]

/-- What a rule may declare whose first property is given. -/
def family (first : String) : List String :=
  if first ∈ sizeProperties then sizeProperties ++ paintProperties
  else if first ∈ paintProperties then paintProperties
  else if first ∈ clipProperties then clipProperties
  else
    match first with
    | "display" => ["display", "margin-bottom"]
    | "flex-grow" => ["flex-grow", "flex-basis"]
    | _ => [first]

theorem family_of_size {first : String} (h : first ∈ sizeProperties) :
    family first = sizeProperties ++ paintProperties :=
  if_pos h

theorem family_of_paint : ∀ first ∈ paintProperties, family first = paintProperties := by decide

theorem family_of_clip : ∀ first ∈ clipProperties, family first = clipProperties := by decide

/-! ### What a text tells -/

/-- The first property can be told from the text of declarations. -/
theorem lineProperty_signature {first : Declaration} (plain : IsPlain first.property)
    (rest : List Declaration) : lineProperty (signature (first :: rest)) = first.property := by
  rw [signature, Css.lines, List.map_cons, first.line_eq, String.intercalate_cons_append,
    String.intercalate_cons_append, Css.lineProperty_append plain]

/-- What is behind the first line of a text. -/
theorem dropWhile_signature {first : Declaration} (one : IsOneLine first.line)
    (rest : List Declaration) :
    (signature (first :: rest)).toList.dropWhile (· != '\n') =
      if rest = [] then [] else '\n' :: (signature rest).toList := by
  have passed : ∀ c ∈ first.line.toList, (c != '\n') = true := by
    intro c mem
    rw [bne_iff_ne]
    rintro rfl
    exact one mem
  by_cases empty : rest = []
  · rw [if_pos empty, empty]
    exact List.dropWhile_eq_nil_iff.2 passed
  · have more : Css.lines rest ≠ [] := mt List.map_eq_nil_iff.1 empty
    rw [if_neg empty, signature, Css.lines, List.map_cons, ← Css.lines,
      String.intercalate_cons_of_ne_nil more, String.toList_append, String.toList_append,
      List.append_assoc, List.dropWhile_append_of_pos passed]
    rfl

/-- Texts that agree, each with a first line of its own, agree behind it. -/
theorem signature_tail_eq {first first' : Declaration} {rest rest' : List Declaration}
    (one : IsOneLine first.line) (one' : IsOneLine first'.line)
    (same : signature (first :: rest) = signature (first' :: rest')) :
    signature rest = signature rest' := by
  have behind := dropWhile_signature one rest
  rw [same, dropWhile_signature one' rest'] at behind
  split at behind <;> split at behind
  · next empty' empty => rw [empty, empty']
  · cases behind
  · cases behind
  · exact (String.toList_inj.1 (List.cons.inj behind).2).symm

/-- A size on one line. -/
def IsSize (d : Declaration) : Prop := d.property ∈ sizeProperties ∧ IsOneLine d.value

/-- Sizes, and nothing but other things behind them. -/
structure SizesFirst (sizes others : List Declaration) : Prop where
  sizes : ∀ d ∈ sizes, IsSize d
  others : ∀ d ∈ others, IsPlain d.property ∧ d.property ∉ sizeProperties

namespace SizesFirst

variable {d : Declaration} {sizes others sizes' others' : List Declaration}

theorem plain_of_size : ∀ p ∈ sizeProperties, IsPlain p := by decide

theorem isOneLine (first : SizesFirst (d :: sizes) others) : IsOneLine d.line := by
  obtain ⟨isSize, value⟩ := first.sizes d List.mem_cons_self
  have property : ∀ p ∈ sizeProperties, IsOneLine p := by decide
  exact isOneLine_line_iff.2 ⟨property _ isSize, value⟩

theorem tail (first : SizesFirst (d :: sizes) others) : SizesFirst sizes others :=
  ⟨(List.forall_mem_cons.1 first.sizes).2, first.others⟩

/-- The text of sizes and other things begins with a size if there is any. -/
theorem lineProperty_mem_iff (first : SizesFirst sizes others) :
    lineProperty (signature (sizes ++ others)) ∈ sizeProperties ↔ sizes ≠ [] := by
  cases sizes with
  | cons d sizes =>
    obtain ⟨isSize, -⟩ := first.sizes d List.mem_cons_self
    rw [List.cons_append, lineProperty_signature (plain_of_size _ isSize)]
    exact iff_of_true isSize (List.cons_ne_nil _ _)
  | nil =>
    refine iff_of_false ?_ (fun nonempty => nonempty rfl)
    cases others with
    | nil => decide
    | cons d others =>
      obtain ⟨plain, other⟩ := first.others d List.mem_cons_self
      rwa [List.nil_append, lineProperty_signature plain]

/-- Declarations of one text have the same sizes. -/
theorem map_property_eq (first : SizesFirst sizes others) (first' : SizesFirst sizes' others')
    (same : signature (sizes ++ others) = signature (sizes' ++ others')) :
    sizes.map Declaration.property = sizes'.map Declaration.property := by
  induction sizes generalizing sizes' with
  | nil =>
    have noSizes : ¬ sizes' ≠ [] := by
      rw [← first'.lineProperty_mem_iff, ← same, first.lineProperty_mem_iff]
      exact fun nonempty => nonempty rfl
    rw [not_not.1 noSizes]
  | cons d sizes ih =>
    have nonempty : sizes' ≠ [] := by
      rw [← first'.lineProperty_mem_iff, ← same, first.lineProperty_mem_iff]
      exact List.cons_ne_nil _ _
    obtain ⟨d', sizes', rfl⟩ := List.exists_cons_of_ne_nil nonempty
    have here : d.property = d'.property := by
      have told := congrArg lineProperty same
      rwa [List.cons_append, List.cons_append,
        lineProperty_signature (plain_of_size _ (first.sizes d List.mem_cons_self).1),
        lineProperty_signature (plain_of_size _ (first'.sizes d' List.mem_cons_self).1)] at told
    have behind := signature_tail_eq first.isOneLine first'.isOneLine same
    rw [List.map_cons, List.map_cons, here, ih first.tail first'.tail behind]

/-- The sizes among declarations. -/
theorem mem_map_property_iff (first : SizesFirst sizes others) {p : String}
    (isSize : p ∈ sizeProperties) :
    p ∈ (sizes ++ others).map Declaration.property ↔ p ∈ sizes.map Declaration.property := by
  rw [List.map_append, List.mem_append]
  refine or_iff_left fun mem => ?_
  obtain ⟨d, declared, rfl⟩ := List.mem_map.1 mem
  exact (first.others d declared).2 isSize

end SizesFirst

/-! ### Orderly declarations -/

/-- Declarations of different properties, all of the family of the first, sizes in front. -/
structure Orderly (declarations : List Declaration) : Prop where
  nonempty : declarations ≠ []
  plain : ∀ d ∈ declarations, IsPlain d.property
  nodup : (declarations.map Declaration.property).Nodup
  related : ∀ d ∈ declarations, d.property ∈ family (lineProperty (signature declarations))
  sizesFirst : ∃ sizes others, declarations = sizes ++ others ∧ SizesFirst sizes others

/-- Which sizes orderly declarations have can be told from their text. -/
theorem Orderly.size_mem_iff {a b : List Declaration} (ha : Orderly a) (hb : Orderly b)
    (same : signature a = signature b) {p : String} (isSize : p ∈ sizeProperties) :
    p ∈ a.map Declaration.property ↔ p ∈ b.map Declaration.property := by
  obtain ⟨sizes, others, rfl, first⟩ := ha.sizesFirst
  obtain ⟨sizes', others', rfl, first'⟩ := hb.sizesFirst
  rw [first.mem_map_property_iff isSize, first'.mem_map_property_iff isSize,
    first.map_property_eq first' same]

/-- What requests that share a class with a request may declare. -/
def Request.family (request : Request) : List String :=
  SceneMarkup.family (lineProperty request.ruleText)

/-- Orderly declarations that share a class with declarations of some properties only. -/
structure Request.Within (properties : List String) (request : Request) : Prop where
  orderly : Orderly request.declarations
  family : request.family ⊆ properties

/-- Declarations of different properties that are the family of the first. -/
theorem Request.within_of_cons {request : Request} {first : Declaration} {rest : List Declaration}
    (declares : request.declarations = first :: rest) {properties : List String}
    (isFamily : SceneMarkup.family first.property = properties)
    (plain : ∀ property ∈ properties, IsPlain property)
    (inside : ∀ d ∈ first :: rest, d.property ∈ properties)
    (nodup : ((first :: rest).map Declaration.property).Nodup)
    (sizesFirst : ∃ sizes others, first :: rest = sizes ++ others ∧ SizesFirst sizes others) :
    request.Within properties := by
  have told := lineProperty_signature (plain _ (inside first List.mem_cons_self)) rest
  constructor
  · rw [declares]
    exact ⟨List.cons_ne_nil _ _, fun d mem => plain _ (inside d mem), nodup,
      by rwa [told, isFamily], sizesFirst⟩
  · rw [Request.family, Request.ruleText, declares, told, isFamily]
    exact List.Subset.refl properties

/-- Declarations without sizes. -/
theorem Request.within_of_cons_unsized {request : Request} {first : Declaration}
    {rest : List Declaration} (declares : request.declarations = first :: rest)
    {properties : List String} (isFamily : SceneMarkup.family first.property = properties)
    (plain : ∀ property ∈ properties, IsPlain property ∧ property ∉ sizeProperties)
    (inside : ∀ d ∈ first :: rest, d.property ∈ properties)
    (nodup : ((first :: rest).map Declaration.property).Nodup) : request.Within properties :=
  within_of_cons declares isFamily (fun property mem => (plain property mem).1) inside nodup
    ⟨[], _, rfl, fun _ mem => (by cases mem), fun d mem => plain _ (inside d mem)⟩

/-! ### Orderly rules -/

/-- The properties that the lines of a rule declare. -/
def Rule.properties (rule : Rule) : List String := rule.body.map lineProperty

namespace Registry

/-- The lines of every rule are orderly declarations. -/
def AllOrderly (registry : Registry) : Prop :=
  ∀ rule ∈ registry.rules, ∃ declarations, rule.body = Css.lines declarations ∧ Orderly declarations

theorem allOrderly_empty : AllOrderly {} := fun _ mem => by cases mem

variable {registry : Registry}

theorem AllOrderly.intern (orderly : registry.AllOrderly) {request : Request}
    (h : Orderly request.declarations) : (registry.intern request).2.AllOrderly := by
  rcases registry.rules_intern request with same | ⟨-, added⟩
  · rwa [AllOrderly, same]
  · rw [AllOrderly, added]
    exact List.forall_mem_cons.2 ⟨⟨request.declarations, rfl, h⟩, orderly⟩

theorem AllOrderly.internAll (orderly : registry.AllOrderly) {requests : List Request}
    (h : ∀ request ∈ requests, Orderly request.declarations) :
    (registry.internAll requests).2.AllOrderly := by
  induction requests generalizing registry with
  | nil => exact orderly
  | cons request rest ih =>
    obtain ⟨first, others⟩ := List.forall_mem_cons.1 h
    exact ih (orderly.intern first) others

/-- A rule with the text of a request declares something, nothing twice, and nothing outside of the
family of the request. -/
theorem AllOrderly.rule (orderly : registry.AllOrderly) {rule : Rule} (mem : rule ∈ registry.rules)
    {request : Request} (text : "\n".intercalate rule.body = request.ruleText) :
    rule.properties ≠ [] ∧ rule.properties.Nodup ∧ rule.properties ⊆ request.family := by
  obtain ⟨declarations, body, h⟩ := orderly rule mem
  have properties : rule.properties = declarations.map Declaration.property := by
    rw [Rule.properties, body, Css.map_lineProperty_lines h.plain]
  -- The declarations may be others than those of the request, but they have the same text.
  have same : signature declarations = request.ruleText := by rw [← text, body, signature]
  rw [properties, Request.family, ← same]
  refine ⟨fun empty => h.nonempty (List.map_eq_nil_iff.1 empty), h.nodup, ?_⟩
  intro property mem
  obtain ⟨d, declared, rfl⟩ := List.mem_map.1 mem
  exact h.related d declared

/-- A rule with the text of an orderly request declares the sizes that the request declares. -/
theorem AllOrderly.size_mem_iff (orderly : registry.AllOrderly) {rule : Rule}
    (mem : rule ∈ registry.rules) {request : Request} (asked : Orderly request.declarations)
    (text : "\n".intercalate rule.body = request.ruleText) {p : String}
    (isSize : p ∈ sizeProperties) :
    p ∈ rule.properties ↔ p ∈ request.declarations.map Declaration.property := by
  obtain ⟨declarations, body, h⟩ := orderly rule mem
  have same : signature declarations = request.ruleText := by rw [← text, body, signature]
  rw [Rule.properties, body, Css.map_lineProperty_lines h.plain]
  exact h.size_mem_iff asked same isSize

end Registry

end SceneMarkup
