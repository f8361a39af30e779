import Mathlib.Data.List.Infix
import SceneMarkup.Proofs.Markup.Escape
import SceneMarkup.Proofs.Naming.ClassName
import SceneMarkup.Proofs.Text.Runs
import SceneMarkup.Stylesheet.Registry

/-!
# Plain identifiers

A class name is an identifier of style sheets that is written as it is, wherever it stands: it has
small letters, digits, hyphens and underscores only, and begins with a letter or an underscore.

* `IsIdentifier`: such a name;
* `isIdentifier_baseName`, `IsIdentifier.candidate`: the base of a class name is one, and so are its
  numbered names;
* `escape_intercalate`, `words_intercalate`: names with blanks between them are an attribute that
  needs no escapes, and the names are its words;
* `takeWhile_tail_text`: the selector of a rule ends where the name does.
-/

namespace SceneMarkup.Naming

open Text (IsOf joined joined_cons_ne_nil words)

/-- A character that a class name begins with. -/
def beginsClass (c : Char) : Bool := c.isLower || c == '_'

/-- A plain identifier: class characters, of which the first is a letter or an underscore. -/
structure IsIdentifier (text : String) : Prop where
  isClassText : IsClassText text
  begins : text.toList.head?.any beginsClass = true

instance : DecidablePred IsIdentifier := fun text =>
  decidable_of_iff (IsClassText text ∧ text.toList.head?.any beginsClass = true)
    ⟨fun h => ⟨h.1, h.2⟩, fun h => ⟨h.1, h.2⟩⟩

/-- Class characters may follow an identifier. -/
theorem IsIdentifier.append {a b : String} (ha : IsIdentifier a) (hb : IsClassText b) :
    IsIdentifier (a ++ b) := by
  refine ⟨Text.IsOf.append ha.isClassText hb, ?_⟩
  obtain ⟨c, first, begins⟩ := (Option.any_eq_true _ _).1 ha.begins
  rw [String.toList_append, List.head?_append, first]
  exact begins

theorem IsIdentifier.toList_ne_nil {text : String} (h : IsIdentifier text) : text.toList ≠ [] := by
  intro empty
  have begins := h.begins
  rw [empty] at begins
  cases begins

/-- The numbered names of an identifier are identifiers. -/
theorem IsIdentifier.candidate {base : String} (h : IsIdentifier base) (n : Nat) :
    IsIdentifier (candidate base n) := by
  unfold SceneMarkup.candidate
  split
  · exact h
  · exact (h.append (by decide)).append (Text.isOf_nat isClassChar_of_isDigit n)

/-! ### Bases -/

/-- What is trimmed of hyphens begins with none. -/
theorem ne_hyphen_of_head?_hyphenTrimmed {text : List Char} {c : Char}
    (first : (hyphenTrimmed text).head? = some c) : c ≠ '-' := by
  rintro rfl
  -- What is cut off at the end does not change the beginning.
  obtain ⟨behind, whole⟩ : hyphenTrimmed text <+: text.dropWhile (· == '-') := by
    have kept := List.dropWhile_suffix (· == '-') (l := (text.dropWhile (· == '-')).reverse)
    rwa [← List.reverse_prefix, List.reverse_reverse] at kept
  have front : (text.dropWhile (· == '-')).head? = some '-' := by
    rw [← whole, List.head?_append, first]
    rfl
  have stops := List.head?_dropWhile_not (· == '-') text
  rw [front] at stops
  cases stops

theorem head?_nodeChars (id : List Char) : (nodeChars id).head? = some 'n' := by
  rw [nodeChars]
  by_cases empty : ([slugChars id].filter fun slug => !slug.isEmpty) = []
  · rw [empty]
    rfl
  · rw [joined_cons_ne_nil _ _ empty]
    rfl

theorem begins_withoutLeadingDigit {base : List Char} {c : Char} (first : base.head? = some c)
    (either : beginsClass c = true ∨ c.isDigit = true) :
    (withoutLeadingDigit base).head?.any beginsClass = true := by
  obtain ⟨rest, rfl⟩ := List.head?_eq_some_iff.1 first
  rw [withoutLeadingDigit]
  split
  · rfl
  · next other =>
    simpa using either.resolve_right other

/-- **The base of a class name is a plain identifier**, whatever the name and the identifier. -/
theorem isIdentifier_baseName (name id : String) : IsIdentifier (baseName name id) := by
  refine ⟨isClassText_baseName name id, ?_⟩
  rw [baseName, String.toList_ofList, baseChars]
  cases shown : (shownChars name.toList).head? with
  | none =>
    rw [if_pos (by rw [List.head?_eq_none_iff.1 shown]; rfl)]
    exact begins_withoutLeadingDigit (head?_nodeChars id.toList) (.inl rfl)
  | some c =>
    have mem : c ∈ shownChars name.toList := List.mem_of_head? shown
    rw [if_neg (by simpa using List.ne_nil_of_mem mem)]
    refine begins_withoutLeadingDigit shown ?_
    have isClassChar := isClassChar_shownChars c mem
    have other := ne_hyphen_of_head?_hyphenTrimmed shown
    simpa [Naming.isClassChar, beginsClass, other, or_assoc, or_comm,
      or_left_comm] using isClassChar

/-! ### Attributes and selectors -/

theorem isWhiteSpace_of_isClassChar {c : Char} (kept : isClassChar c = true) :
    Unicode.isWhiteSpace c = false :=
  forall_isClassChar (p := fun c => Unicode.isWhiteSpace c = false) (by decide +kernel) kept

theorem entity?_eq_none {c : Char} (plain : isClassChar c = true ∨ c = ' ') (dialect : Dialect) :
    Escape.entity? dialect c = none := by
  have reserved : ∀ entry ∈ Escape.entities,
      ¬ (isClassChar entry.1 = true ∨ entry.1 = ' ') := by decide
  exact Option.eq_none_iff_forall_ne_some.2 fun entity h => reserved _ (Escape.mem_entities h) plain

/-- Names with blanks between them need no escapes. -/
theorem escape_intercalate {names : List String} (each : ∀ name ∈ names, IsClassText name)
    (dialect : Dialect) :
    Escape.escape dialect (" ".intercalate names) = " ".intercalate names := by
  have chars : IsOf (fun c => isClassChar c || c == ' ') (" ".intercalate names) :=
    Text.isOf_intercalate (by decide) fun name mem => (each name mem).mono fun c h => by rw [h]; rfl
  have same : Escape.escapeChars dialect (" ".intercalate names).toList =
      (" ".intercalate names).toList.flatMap fun c => [c] := by
    refine List.flatMap_congr fun c mem => ?_
    rw [Escape.escapeChar, entity?_eq_none (by simpa using chars c mem)]
  rw [Escape.escape, same, List.flatMap_singleton', String.ofList_toList]

/-- Identifiers with blanks between them are the words of the text. -/
theorem words_intercalate {names : List String} (each : ∀ name ∈ names, IsIdentifier name) :
    words Unicode.isWhiteSpace (" ".intercalate names).toList = names.map String.toList := by
  rw [String.toList_intercalate, show " ".toList = [' '] from rfl,
    Text.intercalate_singleton_eq_joined]
  refine Text.words_joined rfl (List.forall_mem_map.2 fun name mem =>
    ⟨(each name mem).toList_ne_nil, ?_⟩)
  exact fun c inside => isWhiteSpace_of_isClassChar ((each name mem).isClassText c inside)

/-- The selector of a rule ends where its name does. -/
theorem takeWhile_tail_text {rule : Rule} (name : IsClassText rule.className) :
    rule.text.toList.tail.takeWhile isClassChar = rule.className.toList := by
  have selector : rule.text.toList.tail = rule.className.toList ++ (" \x7b\n" ++
      String.join (rule.body.map fun line => "  " ++ line ++ "\n") ++ "\x7d\n").toList := by
    simp only [Rule.text, String.toList_append, List.append_assoc]
    rfl
  rw [selector, List.takeWhile_append_of_pos name]
  simp [isClassChar]

end SceneMarkup.Naming
