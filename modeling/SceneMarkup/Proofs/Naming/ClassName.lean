import SceneMarkup.Naming.ClassName
import SceneMarkup.Proofs.Text.Kinds
import SceneMarkup.Proofs.Text.Pieces

/-!
# The characters of class names

Whatever a layer is called, and whatever its identifier, the base of its class name has small
letters, digits, hyphens and underscores only.

* `IsClassText`: a text of such characters;
* `forall_isClassChar`: what holds of those of the first block holds of all of them;
* `isClassText_baseName`: the base of a class name is one.
-/

namespace SceneMarkup.Naming

open Text (IsOf forall_isAlphanum isAlphanum_of_isDigit isAlphanum_of_isLower isOf_ofList mem_joined
  mem_of_mem_pieces toNat_lt_of_isAlphanum words)

/-- A text of characters that a class name keeps. -/
abbrev IsClassText (text : String) : Prop := IsOf isClassChar text

theorem isClassChar_of_isDigit (c : Char) (digit : c.isDigit = true) : isClassChar c = true := by
  simp [isClassChar, digit]

theorem toNat_lt_of_isClassChar {c : Char} (kept : isClassChar c = true) : c.toNat < 128 := by
  simp only [isClassChar, Bool.or_eq_true, beq_iff_eq] at kept
  rcases kept with ((lower | digit) | rfl) | rfl
  · exact toNat_lt_of_isAlphanum (isAlphanum_of_isLower lower)
  · exact toNat_lt_of_isAlphanum (isAlphanum_of_isDigit digit)
  · decide
  · decide

/-- What holds of the class characters of the first block holds of all class characters. -/
theorem forall_isClassChar {p : Char → Prop}
    (first : ∀ n < 128, isClassChar (Char.ofNat n) = true → p (Char.ofNat n)) {c : Char}
    (h : isClassChar c = true) : p c := by
  have here := first c.toNat (toNat_lt_of_isClassChar h)
  rw [Char.ofNat_toNat] at here
  exact here h

/-- The characters of words are those of the text that do not separate. -/
theorem mem_of_mem_words {separates : Char → Bool} {text word : List Char}
    (h : word ∈ words separates text) {c : Char} (mem : c ∈ word) :
    c ∈ text ∧ separates c = false :=
  mem_of_mem_pieces (List.mem_filter.1 h).1 mem

theorem mem_of_mem_hyphenTrimmed {text : List Char} {c : Char} (mem : c ∈ hyphenTrimmed text) :
    c ∈ text := by
  have front := (List.dropWhile_suffix (fun c => c == '-')).subset (List.mem_reverse.1 mem)
  exact (List.dropWhile_suffix _).subset (List.mem_reverse.1 front)

theorem isClassChar_shownChars {name : List Char} :
    ∀ c ∈ shownChars name, isClassChar c = true := by
  intro c mem
  rcases mem_joined (mem_of_mem_hyphenTrimmed mem) with rfl | ⟨word, listed, inside⟩
  · rfl
  · -- What is kept of a name is class characters and white space, and words have no white space.
    obtain ⟨kept, solid⟩ := mem_of_mem_words listed inside
    have either := (List.mem_filter.1 kept).2
    rwa [solid, Bool.or_false] at either

theorem isClassChar_toLower {c : Char} (word : isWordChar c = true) :
    isClassChar c.toLower = true :=
  forall_isAlphanum (p := fun c => isClassChar c.toLower = true) (by decide +kernel) word

theorem isClassChar_slugChars {id : List Char} : ∀ c ∈ slugChars id, isClassChar c = true := by
  intro c mem
  rcases mem_joined mem with rfl | ⟨lower, listed, inside⟩
  · rfl
  · obtain ⟨word, isWord, rfl⟩ := List.mem_map.1 listed
    obtain ⟨letter, spelled, rfl⟩ := List.mem_map.1 inside
    have solid := (mem_of_mem_words isWord spelled).2
    exact isClassChar_toLower (by simpa using solid)

theorem isClassChar_nodeChars {id : List Char} : ∀ c ∈ nodeChars id, isClassChar c = true := by
  intro c mem
  rcases mem_joined mem with rfl | ⟨part, listed, inside⟩
  · rfl
  · rcases List.mem_cons.1 listed with rfl | kept
    · have letters : IsClassText "node" := by decide
      exact letters c inside
    · obtain rfl := List.mem_singleton.1 (List.mem_filter.1 kept).1
      exact isClassChar_slugChars c inside

theorem isClassChar_withoutLeadingDigit {base : List Char}
    (each : ∀ c ∈ base, isClassChar c = true) :
    ∀ c ∈ withoutLeadingDigit base, isClassChar c = true := by
  unfold withoutLeadingDigit
  split
  · split
    · exact List.forall_mem_cons.2 ⟨by decide, List.forall_mem_cons.2 ⟨by decide, each⟩⟩
    · exact each
  · exact fun _ mem => by cases mem

/-- **The base of a class name has class characters only**, whatever the name and the identifier. -/
theorem isClassText_baseName (name id : String) : IsClassText (baseName name id) := by
  refine isOf_ofList.2 (isClassChar_withoutLeadingDigit ?_)
  split
  · exact isClassChar_nodeChars
  · exact isClassChar_shownChars

end SceneMarkup.Naming
