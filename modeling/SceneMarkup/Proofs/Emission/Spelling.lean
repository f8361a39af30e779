import SceneMarkup.Proofs.Emission.Growth

/-!
# Classes spelled out

Markup is spelled out by writing the rules of its classes in their place. A sketch says by itself
what this gives, whatever the registry was before.

* `Markup.spelled?`: markup with the text of the only rule of each class in place of the class;
* `Sketch.spelled?`: the markup of a sketch with the texts of what it asks for in place of classes;
* `NamedDuring.spelled`: the markup that a sketch is named with, spelled out at any later time, is
  the sketch spelled out.
-/

namespace SceneMarkup

namespace Markup

mutual

/-- Markup with the text of the only rule of each class in place of the class, if every class has
exactly one rule. -/
def spelled? (registry : Registry) : Markup → Option Markup
  | element head children => do
    let texts ← head.classes.mapM registry.ruleText?
    let children ← spelledAll? registry children
    return element { head with classes := texts } children
  | text content => some (text content)
  | lineBreak => some lineBreak

/-- Markup one after the other, spelled out. -/
def spelledAll? (registry : Registry) : List Markup → Option (List Markup)
  | [] => some []
  | markup :: rest => do
    let first ← spelled? registry markup
    let others ← spelledAll? registry rest
    return first :: others

end

end Markup

namespace Sketch

mutual

/-- The markup of a sketch with the text of what is asked for in place of each class, if nothing is
wrong with it. -/
def spelled? : Sketch → Option Markup
  | element head children => do
    let children ← spelledAll? children
    return .element ⟨head.tag, head.styling.shown.map Request.ruleText, head.style, head.picture⟩
      children
  | masked clip style children => do
    let children ← spelledAll? children
    return .element ⟨"div", clip.toList.map Request.ruleText, style, none⟩ children
  | text content => some (.text content)
  | lineBreak => some .lineBreak
  | fault _ => none

/-- Sketches one after the other, spelled out. -/
def spelledAll? : List Sketch → Option (List Markup)
  | [] => some []
  | sketch :: rest => do
    let first ← spelled? sketch
    let others ← spelledAll? rest
    return first :: others

end

/-- What holds of each two that match holds of all of them one after the other. -/
theorem spelledAll?_of_forall₂ {last : Registry} {sketches : List Sketch}
    (each : ∀ sketch ∈ sketches, ∀ markup, sketch.NamedDuring last markup →
      ∃ spelled, sketch.spelled? = some spelled ∧ markup.spelled? last = some spelled)
    {markups : List Markup} (named : List.Forall₂ (NamedDuring last) sketches markups) :
    ∃ spelled, spelledAll? sketches = some spelled ∧
      Markup.spelledAll? last markups = some spelled := by
  induction named with
  | nil => exact ⟨[], rfl, rfl⟩
  | cons here _ ih =>
    obtain ⟨eachFirst, eachRest⟩ := List.forall_mem_cons.1 each
    obtain ⟨first, sketch, markup⟩ := eachFirst _ here
    obtain ⟨others, sketches, markups⟩ := ih eachRest
    refine ⟨first :: others, ?_, ?_⟩
    · rw [spelledAll?, sketch, sketches]
      rfl
    · rw [Markup.spelledAll?, markup, markups]
      rfl

/-- **The markup that a sketch is named with, spelled out at any later time, is the sketch spelled
out.** -/
theorem NamedDuring.spelled {last : Registry} (sketch : Sketch) : ∀ markup,
    sketch.NamedDuring last markup →
      ∃ spelled, sketch.spelled? = some spelled ∧ markup.spelled? last = some spelled := by
  induction sketch using induct with
  | element head children ih =>
    intro markup named
    obtain ⟨classes, kids, rfl, texts, inside⟩ := named.element
    obtain ⟨spelled, sketches, markups⟩ := spelledAll?_of_forall₂ ih inside
    refine ⟨.element ⟨head.tag, head.styling.shown.map Request.ruleText, head.style, head.picture⟩
      spelled, ?_, ?_⟩
    · rw [spelled?, sketches]
      rfl
    · rw [Markup.spelled?, texts, markups]
      rfl
  | masked clip style children ih =>
    intro markup named
    obtain ⟨classes, kids, rfl, texts, inside⟩ := named.masked
    obtain ⟨spelled, sketches, markups⟩ := spelledAll?_of_forall₂ ih inside
    refine ⟨.element ⟨"div", clip.toList.map Request.ruleText, style, none⟩ spelled, ?_, ?_⟩
    · rw [spelled?, sketches]
      rfl
    · rw [Markup.spelled?, texts, markups]
      rfl
  | text content =>
    intro markup named
    rw [named.text]
    exact ⟨_, rfl, rfl⟩
  | lineBreak =>
    intro markup named
    rw [named.lineBreak]
    exact ⟨_, rfl, rfl⟩
  | fault id =>
    intro markup named
    exact absurd named NamedDuring.not_fault

end Sketch

end SceneMarkup
