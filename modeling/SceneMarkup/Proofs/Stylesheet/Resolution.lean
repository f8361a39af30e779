import SceneMarkup.Proofs.Css.Lines
import SceneMarkup.Proofs.Css.Shorthand
import SceneMarkup.Proofs.Emission.Growth

/-!
# What classes set

What a class of an element does is told by the text of its rule, which a reader looks up in the
registry and takes apart line by line.

* `Css.lineValue`: the value of a line of style text, next to its property;
* `Css.spokenLines`, `spokenLines_signature`: the lines of a text; those of a rule are those of its
  declarations;
* `Css.settings`: the values that declarations give a property, be it by a shorthand;
* `Registry.valuesFor?`: the values that classes give a property, as they are looked up;
* `valuesFor?_internAll`: the classes of requests set what the requests declare, now and at any
  later time.
-/

namespace SceneMarkup

open Css (Declaration IsPlain sets)

namespace Css

/-! ### The lines of a rule -/

/-- The value of a line of style text: what stands behind the first colon and the blank after it, up
to the semicolon at the end. -/
def lineValue (line : String) : String :=
  String.ofList ((line.toList.dropWhile (· != ':')).drop 2).dropLast

theorem lineValue_line {d : Declaration} (plain : IsPlain d.property) :
    lineValue d.line = d.value := by
  have shape : d.line.toList = d.property.toList ++ ':' :: ' ' :: (d.value.toList ++ [';']) := by
    simp [d.line_eq]
  rw [lineValue, shape, List.dropWhile_append_of_pos (ne_colon_of_isPlain plain),
    List.dropWhile_cons_of_neg (by decide)]
  simp

/-- The lines of a text, without empty ones. -/
def spokenLines (text : String) : List String :=
  ((text.toList.splitOn '\n').filter (· ≠ [])).map String.ofList

/-- The text of a list of declarations has their lines. -/
theorem spokenLines_signature {declarations : List Declaration}
    (one : ∀ d ∈ declarations, IsOneLine d.line) :
    spokenLines (signature declarations) = lines declarations := by
  by_cases empty : declarations = []
  · rw [empty]
    rfl
  · have more : (lines declarations).map String.toList ≠ [] := by simpa [lines] using empty
    have whole : ∀ line ∈ (lines declarations).map String.toList, '\n' ∉ line := by
      simpa [lines, IsOneLine] using one
    have spoken : ∀ line ∈ (lines declarations).map String.toList, decide (line ≠ []) = true := by
      simp [lines, Declaration.line]
    rw [spokenLines, signature, String.toList_intercalate, show "\n".toList = ['\n'] from rfl,
      List.splitOn_intercalate _ whole more, List.filter_eq_self.2 spoken, List.map_map]
    exact (List.map_congr_left fun _ _ => String.ofList_toList).trans (List.map_id _)

/-! ### Settings -/

/-- The values that declarations give a property, be it by a shorthand. -/
def settings (declarations : List Declaration) (property : String) : List String :=
  (declarations.filter fun d => sets d.property property).map Declaration.value

/-- The values that lines of style text give a property. -/
def readSettings (lines : List String) (property : String) : List String :=
  (lines.filter fun line => sets (lineProperty line) property).map lineValue

theorem settings_append (a b : List Declaration) (property : String) :
    settings (a ++ b) property = settings a property ++ settings b property := by
  rw [settings, List.filter_append, List.map_append]
  rfl

/-- The lines of declarations read back as what the declarations set. -/
theorem readSettings_lines {declarations : List Declaration}
    (plain : ∀ d ∈ declarations, IsPlain d.property) (property : String) :
    readSettings (lines declarations) property = settings declarations property := by
  rw [readSettings, lines, List.filter_map, List.map_map, settings]
  have same :
      declarations.filter ((fun line => sets (lineProperty line) property) ∘ Declaration.line) =
      declarations.filter fun d => sets d.property property :=
    List.filter_congr fun d mem => by rw [Function.comp_apply, lineProperty_line (plain d mem)]
  rw [same]
  exact List.map_congr_left fun d mem => lineValue_line (plain d (List.mem_of_mem_filter mem))

end Css

/-! ### Looking up -/

namespace Registry

/-- The values that classes give a property, as they are looked up. Each class has to have one
rule. -/
def valuesFor? (registry : Registry) (classes : List String) (property : String) :
    Option (List String) :=
  (classes.mapM registry.ruleText?).map fun texts =>
    Css.readSettings (texts.flatMap Css.spokenLines) property

/-- Declarations of properties that can be read, each on a line. -/
def IsReadable (declarations : List Declaration) : Prop :=
  ∀ d ∈ declarations, IsPlain d.property ∧ IsOneLine d.line

/-- **The classes of requests set what the requests declare, now and at any later time.** -/
theorem valuesFor?_internAll {meaning : String → List Declaration} {registry later : Registry}
    (faithful : registry.Faithful meaning) {requests : List Request}
    (keyed : ∀ request ∈ requests, request.Keyed meaning)
    (readable : ∀ request ∈ requests, IsReadable request.declarations)
    (grown : later.GrownFrom (registry.internAll requests).2) (property : String) :
    later.valuesFor? (registry.internAll requests).1 property =
      some (Css.settings (requests.flatMap Request.declarations) property) := by
  have said : (requests.map Request.ruleText).flatMap Css.spokenLines =
      Css.lines (requests.flatMap Request.declarations) := by
    rw [List.flatMap_map, Css.lines, List.map_flatMap]
    exact List.flatMap_congr fun request mem =>
      Css.spokenLines_signature fun d declared => (readable request mem d declared).2
  have plain : ∀ d ∈ requests.flatMap Request.declarations, IsPlain d.property := by
    intro d declared
    obtain ⟨request, mem, declared⟩ := List.mem_flatMap.1 declared
    exact (readable request mem d declared).1
  rw [valuesFor?, faithful.spelled_internAll keyed grown, Option.map_some, said,
    Css.readSettings_lines plain]

end Registry

end SceneMarkup
