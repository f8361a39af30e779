import SceneMarkup.Proofs.Css.Values

/-!
# Texts on one line

* `IsOneLine`: a text without line breaks;
* `Text.IsOf.isOneLine`: a text of characters of a kind is such a text if a line break is none of
  them;
* `isOneLine_px`: so are lengths;
* `Declaration.IsTame.isOneLine`: so is the line of a tame declaration.
-/

namespace SceneMarkup

/-- A text without line breaks. -/
def IsOneLine (text : String) : Prop := '\n' ∉ text.toList

instance : DecidablePred IsOneLine := fun text => inferInstanceAs (Decidable ('\n' ∉ text.toList))

theorem isOneLine_append {a b : String} : IsOneLine (a ++ b) ↔ IsOneLine a ∧ IsOneLine b := by
  rw [IsOneLine, String.toList_append, List.mem_append, not_or]
  rfl

/-- A text of characters none of which is a line break. -/
theorem Text.IsOf.isOneLine {kind : Char → Bool} {text : String} (h : Text.IsOf kind text)
    (noFeed : kind '\n' = false) : IsOneLine text := by
  intro broken
  rw [h _ broken] at noFeed
  cases noFeed

theorem isOneLine_px (length : Single) : IsOneLine (Css.px length) :=
  (Css.isValue_px length).isOneLine rfl

/-- A declaration is on one line if its property and its value are. -/
theorem isOneLine_line_iff {d : Css.Declaration} :
    IsOneLine d.line ↔ IsOneLine d.property ∧ IsOneLine d.value := by
  have colon : IsOneLine ": " := by decide
  have semicolon : IsOneLine ";" := by decide
  simp only [Css.Declaration.line, Css.Declaration.text, isOneLine_append, colon, semicolon,
    and_true]

theorem Css.Declaration.IsTame.isOneLine {d : Css.Declaration} (tame : d.IsTame) :
    IsOneLine d.line :=
  isOneLine_line_iff.2 ⟨tame.property.1.isOneLine rfl, tame.value.isOneLine rfl⟩

end SceneMarkup
