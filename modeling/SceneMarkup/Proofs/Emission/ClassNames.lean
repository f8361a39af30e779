import SceneMarkup.Proofs.Emission.Fonts
import SceneMarkup.Proofs.Emission.Usage
import SceneMarkup.Proofs.Naming.Identifier

/-!
# Class names are plain identifiers

Layer names may hold any character and numbers may be anything, but class names do not show it.

* `isIdentifier_requests`: every request of a tree names its class for an identifier;
* `isIdentifier_sheetAfter`: so do all rules, whatever trees are emitted one after the other;
* `PlainClasses`: classes that stand in an attribute as they are, and are told apart there;
* `classes_plain`: **every class of every rule and of every element is a plain identifier.**
-/

namespace SceneMarkup

open Naming (IsIdentifier isClassChar isIdentifier_baseName)
open Picture (Assets)
open Scene (Layer Node)

/-- The name of a utility is an identifier, whatever its number. -/
theorem Layout.IsUtility.isIdentifier {request : Request} (utility : Layout.IsUtility request) :
    IsIdentifier request.base := by
  cases utility with
  | plain listed =>
    have each : ∀ request ∈ fixedUtilities, IsIdentifier request.base := by decide
    exact each request listed
  | @length name property listed length =>
    have each : ∀ entry ∈ lengthUtilities, IsIdentifier (entry.1 ++ "-") := by decide
    exact (each _ listed).append (isClassText_classNumber length)
  | @tracks name property listed count =>
    have each : ∀ entry ∈ trackUtilities, IsIdentifier (entry.1 ++ "-") := by decide
    exact (each _ listed).append (isClassText_nat count)
  | paragraph spacing =>
    have front : IsIdentifier "paragraph-" := by decide
    exact front.append (isClassText_classNumber spacing)

namespace Emission

variable {options : Options} {assets : Assets}

/-- Every request of a tree names its class for an identifier. -/
theorem isIdentifier_requests (options : Options) (assets : Assets) (root : Node) :
    AllAsk (fun request => IsIdentifier request.base) (rootSketch options assets root) := by
  refine allAsk_drawn (fun request utility => utility.isIdentifier)
    (fun mask request asked => ?_) root .root []
    fun visit met declarations declares request asked => ?_
  · rw [clipRequest?_eq_own asked]
    exact (isIdentifier_baseName mask.name mask.id).append (by decide)
  · rw [ownRequest?_eq_own asked]
    exact isIdentifier_baseName visit.2.layer.name visit.2.layer.id

/-- A tree more names its classes for identifiers. -/
theorem isIdentifier_emitRoot {sheet : Sheet}
    (before : ∀ rule ∈ sheet.registry.rules, IsIdentifier rule.className) (root : Node) :
    ∀ rule ∈ (emitRoot options assets sheet root).2.registry.rules,
      IsIdentifier rule.className := by
  intro rule mem
  obtain ⟨made, isPrefix, after, -⟩ := Sketch.madeOf_name (rootSketch options assets root) sheet
  rw [emitRoot, after] at mem
  rcases Registry.exists_request_of_mem_rules mem with earlier | ⟨request, asked, ⟨n, name⟩, -⟩
  · exact before rule earlier
  · rw [name]
    exact (isIdentifier_requests options assets root request (isPrefix.subset asked)).candidate n

theorem isIdentifier_sheetAfter {sheet : Sheet}
    (before : ∀ rule ∈ sheet.registry.rules, IsIdentifier rule.className) (roots : List Node) :
    ∀ rule ∈ (sheetAfter options assets sheet roots).registry.rules,
      IsIdentifier rule.className := by
  induction roots generalizing sheet with
  | nil => exact before
  | cons root rest ih => exact ih (isIdentifier_emitRoot before root)

/-- Classes that stand in the attribute of an element as they are, and are told apart there. -/
structure PlainClasses (classes : List String) : Prop where
  isIdentifier : ∀ className ∈ classes, IsIdentifier className
  unescaped : ∀ dialect, Escape.escape dialect (" ".intercalate classes) = " ".intercalate classes
  apart : Text.words Unicode.isWhiteSpace (" ".intercalate classes).toList =
    classes.map String.toList

theorem plainClasses_of_isIdentifier {classes : List String}
    (each : ∀ className ∈ classes, IsIdentifier className) :
    PlainClasses classes :=
  ⟨each, Naming.escape_intercalate fun className mem => (each className mem).isClassText,
    Naming.words_intercalate each⟩

/-- **Class names are plain identifiers.** After any trees, whether they fail or not, so is the
class of every rule, and its selector ends where the class does. So are the classes of all elements
that were emitted. -/
theorem classes_plain (options : Options) (assets : Assets) (roots : List Node) :
    (∀ rule ∈ (sheetAfter options assets {} roots).registry.rules, IsIdentifier rule.className ∧
      rule.text.toList.tail.takeWhile isClassChar = rule.className.toList) ∧
    ∀ tree, .ok tree ∈ outcomes options assets {} roots →
      ∀ element ∈ tree.subtrees, PlainClasses element.classes := by
  have rules : ∀ rule ∈ (sheetAfter options assets {} roots).registry.rules,
      IsIdentifier rule.className :=
    isIdentifier_sheetAfter (fun _ mem => by cases mem) roots
  refine ⟨fun rule mem => ⟨rules rule mem, Naming.takeWhile_tail_text (rules rule mem).isClassText⟩,
    ?_⟩
  intro tree emitted element inside
  refine plainClasses_of_isIdentifier fun className shown => ?_
  -- A class that is shown has a rule.
  obtain ⟨rule, mem, rfl⟩ := List.mem_map.1
    (usedClasses_subset_classNames emitted (List.mem_flatMap.2 ⟨element, inside, shown⟩))
  exact rules rule mem

/-- A frame whose name has a digit in front, and letters and signs that no class name has. -/
def strangeFrame : Node :=
  .mk { id := "9:9", name := " 7 \"Größe\" \x7bX\x7d →", kind := .frame {}, width := 40,
        height := 40 } []

theorem classes_of_strangeFrame_plain :
    (sheetAfter {} {} {} [strangeFrame]).registry.classNames = ["n-7-gre-x"] ∧
    (∀ rule ∈ (sheetAfter {} {} {} [strangeFrame]).registry.rules, IsIdentifier rule.className) ∧
    ∃ tree, .ok tree ∈ outcomes {} {} {} [strangeFrame] ∧
      ∀ element ∈ tree.subtrees, PlainClasses element.classes := by
  have sound : (rootSketch {} {} strangeFrame).faults = [] := by decide +kernel
  obtain ⟨tree, emitted⟩ := (Sketch.exists_name_ok_iff {} _).2 sound
  have mem : .ok tree ∈ outcomes {} {} {} [strangeFrame] := List.mem_singleton.2 emitted.symm
  exact ⟨by decide +kernel, fun rule mem => ((classes_plain {} {} _).1 rule mem).1, tree, mem,
    (classes_plain {} {} _).2 tree mem⟩

end Emission

end SceneMarkup
