import SceneMarkup.Proofs.Naming.Identifier

/-!
# Bases that stay as they are

The base of a class name is a plain identifier that does not end with a hyphen, and a name of this
form is its own base, whatever the identifier of the node.

* `IsBase`: such a name;
* `ends_joined`: texts with a separator between them do not end with it if none of them does;
* `isBase_baseName`: the base of a class name is of this form;
* `shownChars_of_isClassChar`: of a name of class characters all is shown but the hyphens around it;
* `baseName_eq_self_iff`: the names of this form are those that are their own base;
* `baseName_idempotent`: to take the base of a base changes nothing.
-/

namespace SceneMarkup.Naming

open Text (forall_isAlphanum joined joined_cons_ne_nil pieces_of_forall_not words)

/-- A name of which nothing is changed: a plain identifier that does not end with a hyphen. -/
structure IsBase (text : String) : Prop where
  isIdentifier : IsIdentifier text
  ends : text.toList.getLast? ≠ some '-'

/-- A name of this form begins with a letter or an underscore. -/
theorem IsBase.begins {text : String} (base : IsBase text) :
    ∀ c ∈ text.toList.head?, c.isDigit = false ∧ c ≠ '-' := by
  intro c first
  have begins : beginsClass c = true := by
    have front := base.isIdentifier.begins
    rwa [Option.mem_def.1 first] at front
  have kept : isClassChar c = true := base.isIdentifier.isClassText c (List.mem_of_head? first)
  exact forall_isClassChar (p := fun c => beginsClass c = true → c.isDigit = false ∧ c ≠ '-')
    (by decide +kernel) kept begins

/-! ### Ends -/

/-- What is trimmed of hyphens ends with none. -/
theorem getLast?_hyphenTrimmed (text : List Char) : (hyphenTrimmed text).getLast? ≠ some '-' := by
  intro last
  rw [hyphenTrimmed, List.getLast?_reverse] at last
  have stops := List.head?_dropWhile_not (· == '-') (text.dropWhile (· == '-')).reverse
  rw [last] at stops
  cases stops

/-- A text ends with some character, which is not the separator. -/
def EndsBeside (separator : Char) (text : List Char) : Prop := ∃ c ∈ text.getLast?, c ≠ separator

/-- Texts with a separator between them do not end with it if none of them does. -/
theorem ends_joined {separator : Char} {items : List (List Char)} (nonempty : items ≠ [])
    (each : ∀ item ∈ items, EndsBeside separator item) :
    EndsBeside separator (joined separator items) := by
  induction items with
  | nil => exact absurd rfl nonempty
  | cons first rest ih =>
    obtain ⟨here, others⟩ := List.forall_mem_cons.1 each
    by_cases last : rest = []
    · rw [last]
      exact here
    · obtain ⟨c, ends, other⟩ := ih last others
      refine ⟨c, ?_, other⟩
      rw [joined_cons_ne_nil _ _ last, List.getLast?_append, List.getLast?_cons,
        Option.mem_def.1 ends]
      rfl

theorem ne_hyphen_of_isWordChar {c : Char} (word : isWordChar c = true) : c.toLower ≠ '-' :=
  forall_isAlphanum (p := fun c => c.toLower ≠ '-') (by decide +kernel) word

/-- A slug ends with a letter or a digit, if there is anything in it. -/
theorem ends_slugChars {id : List Char} (nonempty : slugChars id ≠ []) :
    EndsBeside '-' (slugChars id) := by
  refine ends_joined (fun empty => nonempty (by rw [slugChars, empty]; rfl)) fun item listed => ?_
  obtain ⟨word, isWord, rfl⟩ := List.mem_map.1 listed
  have solid : word ≠ [] := by simpa using (List.mem_filter.1 isWord).2
  have inside := (mem_of_mem_words isWord (List.getLast_mem solid)).2
  refine ⟨(word.getLast solid).toLower, ?_, ne_hyphen_of_isWordChar (by simpa using inside)⟩
  rw [List.getLast?_map, List.getLast?_eq_some_getLast solid]
  rfl

theorem ends_nodeChars (id : List Char) : EndsBeside '-' (nodeChars id) := by
  refine ends_joined (List.cons_ne_nil _ _) (List.forall_mem_cons.2 ⟨⟨'e', rfl, by decide⟩, ?_⟩)
  intro slug kept
  obtain ⟨listed, solid⟩ := List.mem_filter.1 kept
  obtain rfl := List.mem_singleton.1 listed
  exact ends_slugChars (by simpa using solid)

theorem getLast?_withoutLeadingDigit (base : List Char) :
    (withoutLeadingDigit base).getLast? = base.getLast? := by
  unfold withoutLeadingDigit
  split
  · split
    · rw [List.getLast?_cons_cons, List.getLast?_cons_cons]
    · rfl
  · rfl

/-- The base of a class name is a plain identifier that does not end with a hyphen. -/
theorem isBase_baseName (name id : String) : IsBase (baseName name id) := by
  refine ⟨isIdentifier_baseName name id, ?_⟩
  rw [baseName, String.toList_ofList, baseChars, getLast?_withoutLeadingDigit]
  split
  · obtain ⟨c, ends, other⟩ := ends_nodeChars id.toList
    rw [Option.mem_def.1 ends]
    exact fun same => other (Option.some.inj same)
  · exact getLast?_hyphenTrimmed _

/-! ### What stays -/

/-- Hyphens in front of a text that begins with none are dropped, and nothing else is. -/
theorem dropWhile_hyphens {front text : List Char} (before : ∀ c ∈ front, c = '-')
    (begins : text.head? ≠ some '-') : (front ++ text).dropWhile (· == '-') = text := by
  rw [List.dropWhile_append_of_pos fun c mem => beq_iff_eq.2 (before c mem)]
  cases text with
  | nil => rfl
  | cons c rest => exact List.dropWhile_cons_of_neg fun same => begins (by rw [eq_of_beq same]; rfl)

/-- Hyphens around a text that neither begins nor ends with one are cut off, and nothing else is. -/
theorem hyphenTrimmed_around {front text back : List Char} (before : ∀ c ∈ front, c = '-')
    (behind : ∀ c ∈ back, c = '-') (begins : (text ++ back).head? ≠ some '-')
    (ends : text.getLast? ≠ some '-') : hyphenTrimmed (front ++ (text ++ back)) = text := by
  rw [hyphenTrimmed, dropWhile_hyphens before begins, List.reverse_append,
    dropWhile_hyphens (fun c mem => behind c (List.mem_reverse.1 mem))
      (by rwa [List.head?_reverse]),
    List.reverse_reverse]

theorem hyphenTrimmed_eq_self {text : List Char} (begins : text.head? ≠ some '-')
    (ends : text.getLast? ≠ some '-') : hyphenTrimmed text = text := by
  have noHyphens : ∀ c ∈ ([] : List Char), c = '-' := fun c mem => by cases mem
  have whole := hyphenTrimmed_around noHyphens noHyphens (by rwa [List.append_nil]) ends
  rwa [List.nil_append, List.append_nil] at whole

theorem toLower_of_isClassChar {c : Char} (kept : isClassChar c = true) : c.toLower = c :=
  forall_isClassChar (p := fun c => c.toLower = c) (by decide +kernel) kept

/-- Of a name of class characters all is shown but the hyphens around it. -/
theorem shownChars_of_isClassChar {text : List Char} (each : ∀ c ∈ text, isClassChar c = true) :
    shownChars text = hyphenTrimmed text := by
  have lower : Unicode.lowerCase text = text := by
    rw [Unicode.lowerCase_ascii fun c mem => toNat_lt_of_isClassChar (each c mem)]
    exact List.map_congr_left (fun c mem => toLower_of_isClassChar (each c mem)) |>.trans
      (List.map_id text)
  have kept : (text.filter fun c => isClassChar c || Unicode.isWhiteSpace c) = text :=
    List.filter_eq_self.2 fun c mem => by rw [each c mem, Bool.true_or]
  have oneWord : joined '-' (words Unicode.isWhiteSpace text) = text := by
    rw [words, pieces_of_forall_not fun c mem => isWhiteSpace_of_isClassChar (each c mem)]
    cases text <;> rfl
  rw [shownChars, lower, kept, oneWord]

theorem withoutLeadingDigit_eq_self {base : List Char}
    (begins : ∀ c ∈ base.head?, c.isDigit = false) :
    withoutLeadingDigit base = base := by
  cases base with
  | nil => rfl
  | cons c rest =>
    have letter : c.isDigit = false := begins c rfl
    rw [withoutLeadingDigit, letter, if_neg Bool.false_ne_true]

/-- A name of this form is its own base. -/
theorem IsBase.baseName_eq_self {text : String} (base : IsBase text) (id : String) :
    baseName text id = text := by
  have shown : shownChars text.toList = text.toList :=
    (shownChars_of_isClassChar base.isIdentifier.isClassText).trans
      (hyphenTrimmed_eq_self (fun first => (base.begins '-' first).2 rfl) base.ends)
  have letter : withoutLeadingDigit text.toList = text.toList :=
    withoutLeadingDigit_eq_self fun c first => (base.begins c first).1
  rw [baseName, baseChars, shown, if_neg (by simpa using base.isIdentifier.toList_ne_nil), letter,
    String.ofList_toList]

/-- The names that are their own base, whatever the identifier, are those of the form of a base. -/
theorem baseName_eq_self_iff {text id : String} : baseName text id = text ↔ IsBase text :=
  ⟨fun same => same ▸ isBase_baseName text id, fun base => base.baseName_eq_self id⟩

/-- **To take the base of a base changes nothing**, whatever the name and whatever the identifiers.
A base is never empty, begins with neither a digit nor a hyphen, and does not end with a hyphen. -/
theorem baseName_idempotent (name id other : String) :
    baseName (baseName name id) other = baseName name id ∧
      baseName name id ≠ "" ∧
      (∀ c ∈ (baseName name id).toList.head?, c.isDigit = false ∧ c ≠ '-') ∧
      (baseName name id).toList.getLast? ≠ some '-' := by
  have base := isBase_baseName name id
  refine ⟨baseName_eq_self_iff.2 base, fun empty => ?_, base.begins, base.ends⟩
  exact base.isIdentifier.toList_ne_nil (by rw [empty]; rfl)

end SceneMarkup.Naming
