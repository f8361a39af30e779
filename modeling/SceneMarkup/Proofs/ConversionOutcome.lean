import SceneMarkup.Conversion
import SceneMarkup.Proofs.Emission.Reach

/-!
# The outcome of a conversion

A selection and the nodes that are reached from its root decide whether there is a document, and if
not, why. What the exporter answers decides nothing.

* `Refused`: no frame or group is selected, or the first has no auto layout, though it has to;
* `convert_eq_error_iff`: the error of a conversion, without a word of the exporter;
* `conversion_outcome`: when there is an error of either kind, and when there is a document.
-/

namespace SceneMarkup

open Scene (Node)
open Picture (Assets Exporter)
open Emission (emitRoot isFaulty reached)

/-- The frame or group of a selection that is to be converted. -/
def firstContainer? (selection : List Node) : Option Node :=
  selection.find? fun node => node.layer.isContainer

/-- No frame or group is selected, or the first has no auto layout, though it has to. -/
def Refused (options : Options) (selection : List Node) : Prop :=
  (∀ node ∈ selection, node.layer.isContainer = false) ∨
    ∃ root, firstContainer? selection = some root ∧ options.requireAutoLayout = true ∧
      root.layer.isAutoLayout = false

/-- A selection gives an error of its kind or its first frame or group. -/
theorem selectRoot_cases (options : Options) (selection : List Node) :
    (Refused options selection ∧
        ∃ reason, selectRoot options selection = .error (.selection reason)) ∨
      (¬ Refused options selection ∧
        ∃ root, firstContainer? selection = some root ∧
        selectRoot options selection = .ok root) := by
  unfold selectRoot
  cases found : firstContainer? selection with
  | none =>
    have refused : ∀ node ∈ selection, node.layer.isContainer = false := by
      simpa [firstContainer?] using found
    rw [firstContainer?] at found
    rw [found]
    exact .inl ⟨.inl refused, _, rfl⟩
  | some root =>
    have mem : root ∈ selection := List.mem_of_find?_eq_some found
    have container : root.layer.isContainer = true :=
      List.find?_some (p := fun node : Node => node.layer.isContainer) found
    rw [firstContainer?] at found
    rw [found]
    by_cases needs : (options.requireAutoLayout && !root.layer.isAutoLayout) = true
    · obtain ⟨required, free⟩ := Bool.and_eq_true_iff.1 needs
      exact .inl ⟨.inr ⟨root, found, required, by simpa using free⟩, _, if_pos needs⟩
    · refine .inr ⟨?_, root, rfl, if_neg needs⟩
      rintro (noContainer | ⟨other, same, required, free⟩)
      · rw [noContainer root mem] at container
        cases container
      · rw [firstContainer?, found] at same
        cases same
        rw [required, free] at needs
        exact needs rfl

/-- A conversion with a root succeeds or fails as the emission of the root does. -/
theorem convert_of_selectRoot {options : Options} {selection : List Node} {root : Node}
    (selected : selectRoot options selection = .ok root) (exporter : Exporter) :
    (∃ id, (emitRoot options (Assets.fetch exporter root) {} root).1 = .error id ∧
        convert options exporter selection = .error (.notFinite id)) ∨
      ∃ body output, (emitRoot options (Assets.fetch exporter root) {} root).1 = .ok body ∧
        convert options exporter selection = .ok output := by
  rw [convert, selected]
  simp only [bind, Except.bind, pure, Except.pure]
  rcases emitRoot options (Assets.fetch exporter root) {} root with ⟨id | body, sheet⟩
  · exact .inl ⟨id, rfl, rfl⟩
  · exact .inr ⟨body, _, rfl, rfl⟩

/-- **The error of a conversion**: that of the selection, or that of the first node that is reached
and cannot be placed. -/
theorem convert_eq_error_iff (options : Options) (exporter : Exporter) (selection : List Node)
    (error : ConversionError) :
    convert options exporter selection = .error error ↔
      selectRoot options selection = .error error ∨
        ∃ root node, selectRoot options selection = .ok root ∧
          ((reached root).find? fun node => isFaulty node.layer) = some node ∧
          error = .notFinite node.layer.id := by
  cases selected : selectRoot options selection with
  | error reason =>
    have failed : convert options exporter selection = .error reason := by
      rw [convert, selected]
      rfl
    simp [failed]
  | ok root =>
    -- Emission fails at the first fault of the sketch, in which the assets do not occur.
    have fails : ∀ id, (emitRoot options (Assets.fetch exporter root) {} root).1 = .error id ↔
        ∃ node, ((reached root).find? fun node => isFaulty node.layer) = some node ∧
          node.layer.id = id := by
      intro id
      rw [← Option.map_eq_some_iff, ← Emission.head?_faults_rootSketch]
      exact Sketch.name_fst_eq_error_iff _ _ _
    rcases convert_of_selectRoot selected exporter with ⟨id, emitted, failed⟩ |
        ⟨body, output, emitted, converted⟩
    · obtain ⟨node, first, rfl⟩ := (fails id).1 emitted
      constructor
      · intro same
        rw [failed] at same
        cases same
        exact .inr ⟨root, node, rfl, first, rfl⟩
      · rintro (other | ⟨_, other, same, found, rfl⟩)
        · cases other
        · cases same
          rw [first] at found
          cases found
          exact failed
    · constructor
      · intro failed
        rw [converted] at failed
        cases failed
      · rintro (other | ⟨_, node, same, found, rfl⟩)
        · cases other
        · cases same
          rw [(fails node.layer.id).2 ⟨node, found, rfl⟩] at emitted
          cases emitted

/-- The first node of a list that cannot be placed, by what stands in front of it. -/
theorem find?_isFaulty_eq_some_iff {nodes : List Node} {node : Node} :
    (nodes.find? fun node => isFaulty node.layer) = some node ↔
      ∃ before after, nodes = before ++ node :: after ∧
        (∀ earlier ∈ before, earlier.layer.hasFiniteGeometry = true) ∧
        node.layer.hasFiniteGeometry = false := by
  rw [List.find?_eq_some_iff_append]
  simp only [isFaulty, Bool.not_not, Bool.not_eq_true']
  constructor
  · rintro ⟨faulty, before, after, split, sound⟩
    exact ⟨before, after, split, sound, faulty⟩
  · rintro ⟨before, after, split, sound, faulty⟩
    exact ⟨faulty, before, after, split, sound⟩

/-- A conversion is refused with the text of a problem with the selection, whatever the exporter. -/
theorem convert_eq_selection_iff (options : Options) (exporter : Exporter) (selection : List Node) :
    (∃ reason, convert options exporter selection = .error (.selection reason)) ↔
      Refused options selection := by
  simp only [convert_eq_error_iff]
  rcases selectRoot_cases options selection with ⟨refused, reason, failed⟩ |
      ⟨allowed, root, -, selected⟩
  · exact ⟨fun _ => refused, fun _ => ⟨reason, .inl failed⟩⟩
  · refine ⟨?_, fun refused => absurd refused allowed⟩
    rintro ⟨reason, other | ⟨_, node, -, -, other⟩⟩
    · rw [selected] at other
      cases other
    · cases other

/-- A conversion fails for another reason exactly if some node that is reached cannot be placed, and
names the first such node. -/
theorem convert_eq_unexpected_iff (options : Options) (exporter : Exporter) (selection : List Node)
    (reason : String) :
    convert options exporter selection = .error (.unexpected reason) ↔
      ¬ Refused options selection ∧ ∃ root before node after,
        firstContainer? selection = some root ∧
        reached root = before ++ node :: after ∧
        (∀ earlier ∈ before, earlier.layer.hasFiniteGeometry = true) ∧
        node.layer.hasFiniteGeometry = false ∧
        reason = "node " ++ node.layer.id ++ " has non-finite geometry" := by
  rw [convert_eq_error_iff]
  rcases selectRoot_cases options selection with ⟨refused, other, failed⟩ |
      ⟨allowed, root, first, selected⟩
  · constructor
    · rintro (same | ⟨root, node, selected, -, -⟩)
      · rw [failed] at same
        cases same
      · rw [failed] at selected
        cases selected
    · rintro ⟨allowed, -⟩
      exact absurd refused allowed
  · constructor
    · rintro (failed | ⟨root', node, same, found, message⟩)
      · rw [selected] at failed
        cases failed
      · rw [selected] at same
        cases same
        obtain ⟨before, after, split, sound, faulty⟩ := find?_isFaulty_eq_some_iff.1 found
        refine ⟨allowed, root, before, node, after, first, split, sound, faulty, ?_⟩
        exact ConversionError.unexpected.inj message
    · rintro ⟨-, root', before, node, after, same, split, sound, faulty, rfl⟩
      rw [first] at same
      cases same
      exact .inr ⟨root, node, selected,
        find?_isFaulty_eq_some_iff.2 ⟨before, after, split, sound, faulty⟩, rfl⟩

/-- There is a document exactly if a frame or group is selected that may be converted, and
everything that is reached can be placed. -/
theorem convert_eq_ok_iff (options : Options) (exporter : Exporter) (selection : List Node) :
    (∃ output, convert options exporter selection = .ok output) ↔
      ¬ Refused options selection ∧ ∃ root, firstContainer? selection = some root ∧
        ∀ node ∈ reached root, node.layer.hasFiniteGeometry = true := by
  have errors := convert_eq_error_iff options exporter selection
  rcases selectRoot_cases options selection with ⟨refused, reason, failed⟩ |
      ⟨allowed, root, first, selected⟩
  · have fails := (errors (.selection reason)).2 (.inl failed)
    constructor
    · rintro ⟨output, converted⟩
      rw [fails] at converted
      cases converted
    · rintro ⟨allowed, -⟩
      exact absurd refused allowed
  · have sound_iff : (∀ node ∈ reached root, node.layer.hasFiniteGeometry = true) ↔
        ((reached root).find? fun node => isFaulty node.layer) = none := by
      simp [isFaulty]
    constructor
    · rintro ⟨output, converted⟩
      refine ⟨allowed, root, first, sound_iff.2 ?_⟩
      refine Option.eq_none_iff_forall_ne_some.2 fun node found => ?_
      rw [(errors (.notFinite node.layer.id)).2
        (.inr ⟨root, node, selected, found, rfl⟩)] at converted
      cases converted
    · rintro ⟨-, root', same, sound⟩
      rw [first] at same
      cases same
      cases result : convert options exporter selection with
      | ok output => exact ⟨output, rfl⟩
      | error error =>
        rcases (errors error).1 result with failed | ⟨root', node, same, found, -⟩
        · rw [selected] at failed
          cases failed
        · rw [selected] at same
          cases same
          rw [sound_iff.1 sound] at found
          cases found

/-- **The outcome of a conversion.** It is an error of the selection exactly if the selection is
refused; else it is the error of the first node that is reached and cannot be placed, if there is
one, and else a document. The exporter decides nothing about it. -/
theorem conversion_outcome (options : Options) (exporter : Exporter) (selection : List Node) :
    ((∃ reason, convert options exporter selection = .error (.selection reason)) ↔
      Refused options selection) ∧
    (∀ reason, convert options exporter selection = .error (.unexpected reason) ↔
      ¬ Refused options selection ∧ ∃ root before node after,
      firstContainer? selection = some root ∧
        reached root = before ++ node :: after ∧
        (∀ earlier ∈ before, earlier.layer.hasFiniteGeometry = true) ∧
        node.layer.hasFiniteGeometry = false ∧
        reason = "node " ++ node.layer.id ++ " has non-finite geometry") ∧
    ((∃ output, convert options exporter selection = .ok output) ↔
      ¬ Refused options selection ∧ ∃ root, firstContainer? selection = some root ∧
        ∀ node ∈ reached root, node.layer.hasFiniteGeometry = true) ∧
    ∀ exporter' error, convert options exporter selection = .error error ↔
      convert options exporter' selection = .error error := by
  refine ⟨convert_eq_selection_iff options exporter selection,
    convert_eq_unexpected_iff options exporter selection,
    convert_eq_ok_iff options exporter selection, fun exporter' error => ?_⟩
  rw [convert_eq_error_iff, convert_eq_error_iff]

end SceneMarkup
