import SceneMarkup.Proofs.Emission.Naming
import SceneMarkup.Proofs.Emission.Properties
import SceneMarkup.Typography.Content

/-!
# What texts are made of

* `Sketch.IsLetters`: letters or a line break;
* `Sketch.IsContent`: letters, a box of letters that asks for nothing but one utility, or a box of
  letters with paint;
* `isContent_textContent`: everything in a text is such content.
-/

namespace SceneMarkup

open Appearance (Paints)
open Css (Declaration)

namespace Sketch

/-- Letters or a line break. -/
inductive IsLetters : Sketch → Prop where
  | text (content : String) : IsLetters (.text content)
  | lineBreak : IsLetters .lineBreak

/-- Letters, a box of letters that asks for nothing but one utility, or a box of letters with
paint. -/
inductive IsContent (utility : Request) : Sketch → Prop where
  | letters {sketch : Sketch} (letters : sketch.IsLetters) : IsContent utility sketch
  | paragraph {tag : String} {extra : List Request} {children : List Sketch}
      (asked : extra.Sublist [utility]) (letters : ∀ child ∈ children, child.IsLetters) :
      IsContent utility (.element { tag, styling := { extra } } children)
  | segment {tag : String} {paint : List Declaration} {children : List Sketch}
    (paints : Paints paint)
      (nodup : (paint.map Declaration.property).Nodup)
      (letters : ∀ child ∈ children, child.IsLetters) :
      IsContent utility (.element { tag, style := paint } children)

theorem IsLetters.requests {sketch : Sketch} (h : sketch.IsLetters) : sketch.requests = [] := by
  cases h <;> rfl

theorem IsLetters.faults {sketch : Sketch} (h : sketch.IsLetters) : sketch.faults = [] := by
  cases h <;> rfl

theorem requestsIn_of_isLetters {children : List Sketch}
    (letters : ∀ child ∈ children, child.IsLetters) : requestsIn children = [] := by
  rw [requestsIn_eq_flatMap, List.flatMap_eq_nil_iff]
  exact fun child mem => (letters child mem).requests

theorem faultsIn_of_isLetters {children : List Sketch}
    (letters : ∀ child ∈ children, child.IsLetters) : faultsIn children = [] := by
  rw [faultsIn_eq_flatMap, List.flatMap_eq_nil_iff]
  exact fun child mem => (letters child mem).faults

/-- The content of a text asks for nothing but the utility. -/
theorem IsContent.requests {sketch : Sketch} {utility : Request} (h : sketch.IsContent utility) :
    ∀ request ∈ sketch.requests, request = utility := by
  intro request mem
  cases h with
  | letters letters =>
    rw [letters.requests] at mem
    cases mem
  | paragraph asked letters =>
    rw [Sketch.requests, requestsIn_of_isLetters letters, List.append_nil] at mem
    exact List.mem_singleton.1 (asked.subset mem)
  | segment _ _ letters =>
    rw [Sketch.requests, requestsIn_of_isLetters letters] at mem
    cases mem

/-- Nothing is wrong with the content of a text. -/
theorem IsContent.faults {sketch : Sketch} {utility : Request} (h : sketch.IsContent utility) :
    sketch.faults = [] := by
  cases h with
  | letters letters => exact letters.faults
  | paragraph _ letters => exact faultsIn_of_isLetters letters
  | segment _ _ letters => exact faultsIn_of_isLetters letters

end Sketch

namespace Typography

open Scene (Segment TextStyle)

theorem isLetters_textSketch (text : List Char) : ∀ sketch ∈ textSketch text, sketch.IsLetters := by
  intro sketch mem
  unfold textSketch at mem
  split at mem
  · cases mem
  · rw [List.mem_singleton.1 mem]
    exact .text _

theorem isLetters_brokenLines (broken : List (List Char)) :
    ∀ sketch ∈ brokenLines broken, sketch.IsLetters := by
  induction broken using brokenLines.induct with
  | case1 => intro sketch mem; cases mem
  | case2 line => exact isLetters_textSketch line
  | case3 line rest _ ih =>
    intro sketch mem
    rw [brokenLines] at mem
    · rcases List.mem_append.1 mem with mem | mem
      · exact isLetters_textSketch line sketch mem
      · rcases List.mem_cons.1 mem with rfl | mem
        · exact .lineBreak
        · exact ih sketch mem
    · assumption

theorem isLetters_lines (text : String) : ∀ sketch ∈ lines text, sketch.IsLetters :=
  isLetters_brokenLines (linesOf text)

theorem isContent_segmentSketch (options : Options) (segment : Segment) (utility : Request) :
    ∀ sketch ∈ segmentSketch options segment, sketch.IsContent utility := by
  intro sketch mem
  unfold segmentSketch at mem
  simp only at mem
  split at mem
  · exact .letters (isLetters_lines _ sketch mem)
  · rw [List.mem_singleton.1 mem]
    exact .segment (Appearance.paints_textPaint options segment.fills)
      (Appearance.nodup_textPaint options segment.fills) (isLetters_lines _)

theorem isContent_paragraphSketch {utility : Request} {extra : List Request}
    (asked : extra.Sublist [utility]) (paragraph : List Char) :
    (paragraphSketch extra paragraph).IsContent utility :=
  .paragraph asked (isLetters_textSketch paragraph)

theorem isContent_paragraphs (utility : Request) (parts : List (List Char)) :
    ∀ sketch ∈ paragraphs utility parts, sketch.IsContent utility := by
  induction parts using paragraphs.induct with
  | case1 => intro sketch mem; cases mem
  | case2 last =>
    intro sketch mem
    rw [List.mem_singleton.1 mem]
    exact isContent_paragraphSketch (List.nil_sublist _) last
  | case3 paragraph rest _ ih =>
    intro sketch mem
    rw [paragraphs] at mem
    · rcases List.mem_cons.1 mem with rfl | mem
      · exact isContent_paragraphSketch (List.Sublist.refl _) paragraph
      · exact ih sketch mem
    · assumption

/-- Everything in a text is letters, or a box of letters that asks for nothing but the utility of
its paragraphs, or has nothing but paint. -/
theorem isContent_textContent (options : Options) (text : TextStyle) :
    ∀ sketch ∈ textContent options text,
      sketch.IsContent (paragraphRequest text.paragraphSpacing) := by
  intro sketch mem
  unfold textContent at mem
  split at mem
  · obtain ⟨segment, -, mem⟩ := List.mem_flatMap.1 mem
    exact isContent_segmentSketch options segment _ sketch mem
  · split at mem
    · exact isContent_paragraphs _ _ sketch mem
    · exact .letters (isLetters_lines _ sketch mem)

end Typography

end SceneMarkup
