import Mathlib.Data.List.TakeWhile
import SceneMarkup.Proofs.Appearance.Values
import SceneMarkup.Proofs.Css.Cascade
import SceneMarkup.Proofs.Css.Lines

/-!
# The name in a rule

The family of a font is the one name in a rule that is written as the design has it. It stands
between quotation marks, and there are none around it, so it can be told from the text of the rule,
whatever it is.

* `familyDeclaration`, `NamesFont`: the declaration of a font family, and declarations with one of
  them;
* `namesFont_textDeclarations`: how letters are set names one font;
* `isOneLine_familyDeclaration_iff`: only a name can break the line of the declaration;
* `quotedPart`, `NamesFont.quotedPart_signature`: what stands between the first and the last
  quotation mark of a text is the name;
* `NamesFont.of_signature_eq`: declarations of one text name the same font.
-/

namespace SceneMarkup

open Css (AllTame Declaration NamesNothing allTame_append allTame_ite allTame_nil
  allTame_singleton declares declares_eq_false_iff isValue_percent isValue_px lastOfEach)
open Scene (Layer TextStyle)
open Text (IsOf)

namespace Typography

/-- The declaration of a font family. -/
def familyDeclaration (family : String) : Declaration :=
  ⟨"font-family", "\"" ++ family ++ "\", sans-serif"⟩

/-- Declarations of which one is that of a font family, and the others name nothing. -/
def NamesFont (family : String) (declarations : List Declaration) : Prop :=
  ∃ before after, declarations = before ++ familyDeclaration family :: after ∧
    AllTame before ∧ AllTame after

theorem NamesFont.ne_nil {family : String} {declarations : List Declaration}
    (names : NamesFont family declarations) : declarations ≠ [] := by
  obtain ⟨before, after, rfl, -⟩ := names
  simp

theorem NamesFont.mem {family : String} {declarations : List Declaration}
    (names : NamesFont family declarations) : familyDeclaration family ∈ declarations := by
  obtain ⟨before, after, rfl, -⟩ := names
  exact List.mem_append_right _ List.mem_cons_self

theorem NamesFont.tame_or_eq {family : String} {declarations : List Declaration}
    (names : NamesFont family declarations) {d : Declaration} (declared : d ∈ declarations) :
    d.IsTame ∨ d = familyDeclaration family := by
  obtain ⟨before, after, rfl, ofBefore, ofAfter⟩ := names
  rcases List.mem_append.1 declared with early | late
  · exact .inl (ofBefore d early)
  · rcases List.mem_cons.1 late with rfl | late
    · exact .inr rfl
    · exact .inl (ofAfter d late)

theorem NamesFont.append_left {family : String} {declarations front : List Declaration}
    (names : NamesFont family declarations) (tame : AllTame front) :
    NamesFont family (front ++ declarations) := by
  obtain ⟨before, after, rfl, ofBefore, ofAfter⟩ := names
  exact ⟨front ++ before, after, (List.append_assoc ..).symm, allTame_append.2 ⟨tame, ofBefore⟩,
    ofAfter⟩

theorem NamesFont.append_right {family : String} {declarations back : List Declaration}
    (names : NamesFont family declarations) (tame : AllTame back) :
    NamesFont family (declarations ++ back) := by
  obtain ⟨before, after, rfl, ofBefore, ofAfter⟩ := names
  exact ⟨before, after ++ back, by simp, ofBefore, allTame_append.2 ⟨ofAfter, tame⟩⟩

/-- Nothing that names nothing is the declaration of a font family. -/
theorem declares_family_of_allTame {declarations : List Declaration} (tame : AllTame declarations) :
    declares declarations "font-family" = false :=
  declares_eq_false_iff.2 fun d mem => (tame d mem).property.2

theorem NamesFont.lastOfEach {family : String} {declarations : List Declaration}
    (names : NamesFont family declarations) : NamesFont family (Css.lastOfEach declarations) := by
  obtain ⟨before, after, rfl, ofBefore, ofAfter⟩ := names
  have last : declares after (familyDeclaration family).property = false :=
    declares_family_of_allTame ofAfter
  obtain ⟨kept, sublist, shape⟩ := Css.lastOfEach_append_cons before last
  exact ⟨kept, _, shape, ofBefore.sublist sublist, ofAfter.sublist (Css.lastOfEach_sublist after)⟩

/-! ### Letters -/

theorem allTame_weightDeclarations (style : String) : AllTame (weightDeclarations style) :=
  allTame_append.2
    ⟨allTame_ite allTame_nil (allTame_singleton (by decide) (isValue_nat _)),
      allTame_ite (by decide) allTame_nil⟩

theorem allTame_lineHeightDeclarations (height : Scene.LineHeight) :
    AllTame (lineHeightDeclarations height) := by
  cases height with
  | auto => exact allTame_nil
  | percent value => exact allTame_singleton (by decide) (isValue_percent value)
  | pixels value => exact allTame_singleton (by decide) (isValue_px value)

theorem allTame_letterSpacingDeclarations (spacing : Scene.LetterSpacing) :
    AllTame (letterSpacingDeclarations spacing) := by
  cases spacing with
  | percent value =>
    exact allTame_ite allTame_nil
      (allTame_singleton (by decide) ((isValue_compact _).append (by decide)))
  | pixels value => exact allTame_ite allTame_nil (allTame_singleton (by decide) (isValue_px value))

/-- **How letters are set names one font**, whatever else it says. -/
theorem namesFont_textDeclarations {options : Options}
    (placeholder : IsValue options.placeholderColor) (layer : Layer) (text : TextStyle) :
    NamesFont text.font.family (textDeclarations options layer text) := by
  have family : NamesFont text.font.family [familyDeclaration text.font.family] :=
    ⟨[], [], rfl, allTame_nil, allTame_nil⟩
  have align : AllTame (alignDeclarations text.align) := by cases text.align <;> decide
  have case : AllTame (caseDeclarations text.case) := by cases text.case <;> decide
  have decoration : AllTame (decorationDeclarations text.decoration) := by
    cases text.decoration <;> decide
  have overflow : AllTame (overflowDeclarations text.autoResize) := by
    cases text.autoResize <;> decide
  have paint :
      AllTame (if text.segments.isEmpty then Appearance.textPaint options layer.fills else []) :=
    allTame_ite (Appearance.allTame_textPaint placeholder layer.fills) allTame_nil
  exact (((((((family.append_right (allTame_weightDeclarations _)).append_right
    (allTame_lineHeightDeclarations _)).append_right
      (allTame_letterSpacingDeclarations _)).append_right
    align).append_right case).append_right decoration).append_right overflow).append_right paint

/-! ### The line of a font family -/

/-- Only a name can break the line of the declaration. -/
theorem isOneLine_familyDeclaration_iff {family : String} :
    IsOneLine (familyDeclaration family).line ↔ IsOneLine family := by
  have property : IsOneLine "font-family" := by decide
  have mark : IsOneLine "\"" := by decide
  have others : IsOneLine "\", sans-serif" := by decide
  simp only [isOneLine_line_iff, familyDeclaration, isOneLine_append, property, mark, others,
    true_and, and_true]

/-- Lines of which only that of the font family may be broken. -/
theorem NamesFont.forall_isOneLine_iff {family : String} {declarations : List Declaration}
    (names : NamesFont family declarations) :
    (∀ d ∈ declarations, IsOneLine d.line) ↔ IsOneLine family := by
  constructor
  · exact fun whole => isOneLine_familyDeclaration_iff.1 (whole _ names.mem)
  · intro one d declared
    rcases names.tame_or_eq declared with tame | rfl
    · exact tame.isOneLine
    · exact isOneLine_familyDeclaration_iff.2 one

/-! ### The name can be told from the text -/

/-- Any character but a quotation mark. -/
def isUnquoted (c : Char) : Bool := c != '"'

theorem isUnquoted_of_isValueChar (c : Char) (h : isValueChar c = true) : isUnquoted c = true := by
  rw [isUnquoted, bne_iff_ne]
  rintro rfl
  exact absurd h (by decide)

/-- What names nothing has no quotation marks. -/
theorem isUnquoted_line {d : Declaration} (tame : d.IsTame) : IsOf isUnquoted d.line :=
  (((tame.property.1.mono isUnquoted_of_isValueChar).append (by decide)).append
    (tame.value.mono isUnquoted_of_isValueChar)).append (by decide)

theorem isUnquoted_signature {declarations : List Declaration} (tame : AllTame declarations) :
    IsOf isUnquoted (signature declarations) := by
  refine Text.isOf_intercalate (by decide) fun line mem => ?_
  obtain ⟨d, declared, rfl⟩ := List.mem_map.1 mem
  exact isUnquoted_line (tame d declared)

/-- The line of a declaration in the text of declarations that name nothing. -/
theorem signature_append_cons {before after : List Declaration} (ofBefore : AllTame before)
    (ofAfter : AllTame after) (d : Declaration) :
    ∃ front back, signature (before ++ d :: after) = front ++ d.line ++ back ∧
      IsOf isUnquoted front ∧ IsOf isUnquoted back := by
  induction before with
  | nil =>
    by_cases last : after = []
    · refine ⟨"", "", ?_, by decide, by decide⟩
      simp [last, signature, Css.lines]
    · have more : Css.lines after ≠ [] := mt List.map_eq_nil_iff.1 last
      refine ⟨"", "\n" ++ signature after, ?_, by decide,
        .append (by decide) (isUnquoted_signature ofAfter)⟩
      rw [List.nil_append, String.empty_append, signature, Css.lines, List.map_cons, ← Css.lines,
        String.intercalate_cons_of_ne_nil more, String.append_assoc]
      rfl
  | cons first rest ih =>
    obtain ⟨here, others⟩ := List.forall_mem_cons.1 ofBefore
    obtain ⟨front, back, shape, ofFront, ofBack⟩ := ih others
    have more : Css.lines (rest ++ d :: after) ≠ [] := by simp [Css.lines]
    refine ⟨first.line ++ "\n" ++ front, back, ?_,
      ((isUnquoted_line here).append (by decide)).append ofFront, ofBack⟩
    rw [List.cons_append, signature, Css.lines, List.map_cons, ← Css.lines,
      String.intercalate_cons_of_ne_nil more, ← signature, shape]
    simp only [String.append_assoc]

/-- What stands between the first and the last quotation mark of a text, these included. -/
def quotedPart (text : List Char) : List Char :=
  ((text.dropWhile isUnquoted).reverse.dropWhile isUnquoted).reverse

theorem quotedPart_of_isUnquoted {text : List Char} (unquoted : ∀ c ∈ text, isUnquoted c = true) :
    quotedPart text = [] := by
  rw [quotedPart, List.dropWhile_eq_nil_iff.2 unquoted]
  rfl

theorem quotedPart_append {front back : List Char} (ofFront : ∀ c ∈ front, isUnquoted c = true)
    (ofBack : ∀ c ∈ back, isUnquoted c = true) (inner : List Char) :
    quotedPart (front ++ '"' :: (inner ++ '"' :: back)) = '"' :: (inner ++ ['"']) := by
  have mark : isUnquoted '"' = false := rfl
  have reversed : ∀ c ∈ back.reverse, isUnquoted c = true :=
    fun c mem => ofBack c (List.mem_reverse.1 mem)
  rw [quotedPart, List.dropWhile_append_of_pos ofFront,
    List.dropWhile_cons_of_neg (by rw [mark]; simp)]
  have turned : ('"' :: (inner ++ '"' :: back)).reverse =
      back.reverse ++ '"' :: (inner.reverse ++ ['"']) := by
    simp
  rw [turned, List.dropWhile_append_of_pos reversed,
    List.dropWhile_cons_of_neg (by rw [mark]; simp)]
  simp

/-- **The name of a font can be told from the text of a rule.** -/
theorem NamesFont.quotedPart_signature {family : String} {declarations : List Declaration}
    (names : NamesFont family declarations) :
    quotedPart (signature declarations).toList = '"' :: (family.toList ++ ['"']) := by
  obtain ⟨before, after, rfl, ofBefore, ofAfter⟩ := names
  obtain ⟨front, back, shape, ofFront, ofBack⟩ :=
    signature_append_cons ofBefore ofAfter (familyDeclaration family)
  have ofFront' : IsOf isUnquoted (front ++ "font-family: ") := ofFront.append (by decide)
  have ofBack' : IsOf isUnquoted (", sans-serif;" ++ back) := .append (by decide) ofBack
  have text : (signature (before ++ familyDeclaration family :: after)).toList =
      (front ++ "font-family: ").toList ++
        '"' :: (family.toList ++ '"' :: (", sans-serif;" ++ back).toList) := by
    rw [shape]
    simp [familyDeclaration, Declaration.line, Declaration.text]
  rw [text]
  exact quotedPart_append ofFront' ofBack' family.toList

/-- Declarations of one text name the same font, if one of them names a font. -/
theorem NamesFont.of_signature_eq {family : String} {declarations others : List Declaration}
    (names : NamesFont family declarations) (same : signature others = signature declarations)
    (either : AllTame others ∨ ∃ other, NamesFont other others) : NamesFont family others := by
  have told := names.quotedPart_signature
  rw [← same] at told
  rcases either with tame | ⟨other, names'⟩
  · rw [quotedPart_of_isUnquoted (isUnquoted_signature tame)] at told
    cases told
  · rw [names'.quotedPart_signature, List.cons.injEq] at told
    obtain rfl : other = family := String.toList_inj.1 (List.append_cancel_right told.2)
    exact names'

end Typography

end SceneMarkup
