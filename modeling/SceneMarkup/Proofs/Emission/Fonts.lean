import SceneMarkup.Proofs.Emission.Requests
import SceneMarkup.Proofs.Naming.ClassName
import SceneMarkup.Proofs.Typography.Family

/-!
# What the requests of a tree name

Whatever a design says, the only part of it that stands in a request as it is are the families of
fonts.

* `NamesOnly`: a request whose class has a name of class characters, and that names nothing but a
  font of some families;
* `IsUtility.tame`, `namesOnly_clipRequest?`: utilities and the shapes of masks name no font;
* `IsShownFamily`, `namesOnly_rootSketch`: the requests of a tree name the fonts of the texts that
  are reached, and nothing else.
-/

namespace SceneMarkup

open Css (AllTame Declaration NamesNothing allTame_append allTame_ite allTame_nil allTame_singleton
  isValue_px lastOfEach)
open Naming (IsClassText isClassChar_of_isDigit isClassText_baseName)
open Scene (Axis Layer Node TextStyle visitsAt)
open Text (isOf_int isOf_nat)
open Typography (NamesFont)

/-- A request whose class has a name of class characters, and that names nothing but a font of some
families. -/
structure Request.NamesOnly (families : String → Prop) (request : Request) : Prop where
  base : IsClassText request.base
  declarations : AllTame request.declarations ∨
    ∃ family, families family ∧ NamesFont family request.declarations

namespace Layout

/-! ### Utilities -/

theorem isClassText_nat (n : Nat) : IsClassText (toString n) := isOf_nat isClassChar_of_isDigit n

theorem isClassText_classNumber (length : Single) : IsClassText (classNumber length) := by
  unfold classNumber
  dsimp only
  split
  · exact .append (by decide) (isClassText_nat _)
  · exact isOf_int isClassChar_of_isDigit rfl _

/-- The names and properties of utilities are written with class characters, and name no font. -/
theorem tame_tables : ∀ entry ∈ lengthUtilities ++ trackUtilities,
    IsClassText (entry.1 ++ "-") ∧ NamesNothing entry.2 := by
  decide

/-- A utility names no font. -/
theorem IsUtility.tame {request : Request} (utility : IsUtility request) :
    IsClassText request.base ∧ AllTame request.declarations := by
  cases utility with
  | plain listed =>
    have each : ∀ request ∈ fixedUtilities,
        IsClassText request.base ∧ AllTame request.declarations := by decide
    exact each request listed
  | @length name property listed length =>
    obtain ⟨words, plain⟩ := tame_tables _ (List.mem_append_left _ listed)
    exact ⟨words.append (isClassText_classNumber length),
      allTame_singleton plain (isValue_px length)⟩
  | @tracks name property listed count =>
    obtain ⟨words, plain⟩ := tame_tables _ (List.mem_append_right _ listed)
    have value : IsValue ("repeat(" ++ toString count ++ ", minmax(0, 1fr))") :=
      .append (.append (by decide) (isValue_nat count)) (by decide)
    exact ⟨words.append (isClassText_nat count), allTame_singleton plain value⟩
  | paragraph spacing =>
    have lines : AllTame [⟨"display", "block"⟩, ⟨"margin-bottom", Css.px spacing⟩] :=
      .cons (by decide) (by decide) (allTame_singleton (by decide) (isValue_px spacing))
    exact ⟨.append (by decide) (isClassText_classNumber spacing), lines⟩

theorem allTame_sizeIn (placement : Placement) (layer : Layer) :
    AllTame (sizeIn placement layer).declarations := by
  have side : ∀ axis, AllTame (dimensionDeclarations layer placement axis) := fun axis =>
    allTame_ite (allTame_singleton (by cases axis <;> decide) (isValue_px _)) allTame_nil
  exact allTame_append.2 ⟨side .horizontal, side .vertical⟩

end Layout

namespace Emission

open Picture (Assets)

variable {options : Options}

theorem namesOnly_clipRequest? (families : String → Prop) (mask : Layer) :
    ∀ request ∈ (clipRequest? options mask).toList, request.NamesOnly families := by
  intro request asked
  rw [clipRequest?_eq_own asked]
  exact ⟨(isClassText_baseName mask.name mask.id).append (by decide),
    .inl (allTame_clipDeclarations mask)⟩

/-- What a text declares by itself names the font of its letters. -/
theorem namesFont_letters (placeholder : IsValue options.placeholderColor) (layer : Layer)
    (text : TextStyle) (placement : Layout.Placement) :
    NamesFont text.font.family
      ((Layout.sizeIn placement layer).declarations ++
        Typography.textDeclarations options layer text ++
        Appearance.shadowDeclaration "text-shadow" (Appearance.textShadows options layer) ++
        Appearance.blurs layer ++ Appearance.layerDeclarations options layer) := by
  have letters := Typography.namesFont_textDeclarations placeholder layer text
  have shadows : AllTame
      (Appearance.shadowDeclaration "text-shadow" (Appearance.textShadows options layer)) :=
    Appearance.allTame_shadowDeclaration (by decide) (Appearance.isValue_textShadows layer)
  exact (((letters.append_left (Layout.allTame_sizeIn placement layer)).append_right
    shadows).append_right (Appearance.allTame_blurs layer)).append_right
      (Appearance.allTame_layerDeclarations layer)

/-- What a node declares by itself names the font of its letters, if it is a text, and nothing
else. -/
theorem Declares.names (placeholder : IsValue options.placeholderColor) {layer : Layer}
    {declarations : List Declaration} (declares : Declares options layer declarations) :
    AllTame declarations ∨
      ∃ text, layer.kind = .text text ∧ NamesFont text.font.family declarations := by
  have sizes := fun placement => Layout.allTame_sizeIn placement layer
  have box := Appearance.allTame_boxDeclarations placeholder layer
  cases declares with
  | letters isText placement =>
    exact .inr ⟨_, isText, namesFont_letters placeholder layer _ placement⟩
  | box placement => exact .inl (allTame_append.2 ⟨sizes placement, box⟩)
  | container placement =>
    have clips : AllTame (if layer.frame?.any Scene.Frame.clipsContent then
        [⟨"overflow", "hidden"⟩] else []) := allTame_ite (by decide) allTame_nil
    exact .inl (allTame_append.2 ⟨allTame_append.2 ⟨sizes placement, box⟩, clips⟩)
  | picture placement asset =>
    exact .inl (allTame_append.2 ⟨sizes placement, allTame_picturePaint placeholder layer asset⟩)
  | rotatedPicture asset => exact .inl (allTame_picturePaint placeholder layer asset)

/-- The family of a text that emission reaches. -/
def IsShownFamily (root : Node) (family : String) : Prop :=
  ∃ node ∈ reached root, ∃ text, node.layer.kind = .text text ∧ text.font.family = family

/-- **The requests of a tree name the fonts of the texts that are reached, and nothing else.** -/
theorem namesOnly_rootSketch (placeholder : IsValue options.placeholderColor) (assets : Assets)
    (root : Node) :
    AllAsk (Request.NamesOnly (IsShownFamily root)) (rootSketch options assets root) := by
  refine allAsk_drawn (fun request utility => ⟨utility.tame.1, .inl utility.tame.2⟩)
    (namesOnly_clipRequest? _) root .root [] fun visit met declarations declares request asked => ?_
  rw [ownRequest?_eq_own asked]
  refine ⟨isClassText_baseName _ _, ?_⟩
  rcases declares.names placeholder with tame | ⟨text, isText, names⟩
  · exact .inl (tame.sublist (Css.lastOfEach_sublist declarations))
  · exact .inr ⟨_, ⟨visit.2, List.mem_map_of_mem met, text, isText, rfl⟩, names.lastOfEach⟩

end Emission

end SceneMarkup
