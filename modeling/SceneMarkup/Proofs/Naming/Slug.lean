import SceneMarkup.Proofs.Naming.BaseName
import SceneMarkup.Proofs.Text.Runs

/-!
# Slugs

The slug of an identifier is its runs of letters and digits, in lower case, with single hyphens
between them. It can be written in one pass that looks at the last character so far only, if hyphens
around it are cut off at the end.

* `IsSlug`: a text of this form;
* `wordsOf_slugChars`: the words of a slug are the runs of the identifier, in lower case;
* `slug_eq_self_iff`: the texts of this form are those that are their own slug;
* `foldChar`, `foldl_foldChar_behind`: one character of the pass, and the pass from the end of a run
  on;
* `hyphenTrimmed_foldl`: the pass writes the slug, and hyphens around it;
* `slug_canonical`: what all that says about the slug of an identifier.
-/

namespace SceneMarkup.Naming

open Text (Runs forall_isAlphanum joined runs_iff runs_words words words_joined)

/-- A small letter or a digit. -/
def isSlugChar (c : Char) : Bool := c.isLower || c.isDigit

/-- A word of small letters and digits. -/
def IsSlugWord (word : List Char) : Prop := word ≠ [] ∧ ∀ c ∈ word, isSlugChar c = true

/-- Words of small letters and digits with single hyphens between them, or no word at all. -/
def IsSlug (text : String) : Prop :=
  ∃ words, (∀ word ∈ words, IsSlugWord word) ∧ text.toList = joined '-' words

/-- A word in lower case. -/
def lowered (word : List Char) : List Char := word.map Char.toLower

/-! ### Characters -/

theorem isSlugChar_toLower {c : Char} (word : isWordChar c = true) : isSlugChar c.toLower = true :=
  forall_isAlphanum (p := fun c => isSlugChar c.toLower = true) (by decide +kernel) word

theorem isWordChar_of_isSlugChar {c : Char} (small : isSlugChar c = true) :
    isWordChar c = true := by
  rcases Bool.or_eq_true_iff.1 small with lower | digit
  · exact Text.isAlphanum_of_isLower lower
  · exact Text.isAlphanum_of_isDigit digit

theorem toLower_of_isSlugChar {c : Char} (small : isSlugChar c = true) : c.toLower = c :=
  forall_isAlphanum (p := fun c => isSlugChar c = true → c.toLower = c) (by decide +kernel)
    (isWordChar_of_isSlugChar small) small

/-- No character that separates in an identifier, in a file name or in a text between quotes is in a
slug. -/
theorem isSlugChar_of_reserved : ∀ c ∈ ":;./\\\"'".toList, isSlugChar c = false ∧ c ≠ '-' := by
  have each :
      (":;./\\\"'".toList.all fun c => decide (isSlugChar c = false ∧ c ≠ '-')) = true := by decide
  exact fun c mem => of_decide_eq_true (List.all_eq_true.1 each c mem)

/-! ### Words -/

theorem slugChars_eq (id : List Char) : slugChars id = joined '-' ((wordsOf id).map lowered) := rfl

/-- The words of an identifier in lower case. -/
theorem isSlugWord_lowered {id : List Char} :
    ∀ word ∈ (wordsOf id).map lowered, IsSlugWord word := by
  intro word mem
  obtain ⟨original, listed, rfl⟩ := List.mem_map.1 mem
  refine ⟨fun empty => ?_, fun c inside => ?_⟩
  · rw [List.map_eq_nil_iff.1 empty] at listed
    exact absurd (List.mem_filter.1 listed).2 Bool.false_ne_true
  · obtain ⟨letter, spelled, rfl⟩ := List.mem_map.1 inside
    have solid := (mem_of_mem_words listed spelled).2
    exact isSlugChar_toLower (by simpa using solid)

theorem isSlug_slug (id : String) : IsSlug (slug id) :=
  ⟨(wordsOf id.toList).map lowered, isSlugWord_lowered, String.toList_ofList⟩

/-- Words with hyphens between them read back. -/
theorem wordsOf_joined {words : List (List Char)} (each : ∀ word ∈ words, IsSlugWord word) :
    wordsOf (joined '-' words) = words := by
  refine words_joined (by decide) fun word mem => ⟨(each word mem).1, fun c inside => ?_⟩
  rw [isWordChar_of_isSlugChar ((each word mem).2 c inside)]
  rfl

/-- The words of a slug are the words of the identifier, in lower case. -/
theorem wordsOf_slugChars (id : List Char) : wordsOf (slugChars id) = (wordsOf id).map lowered :=
  wordsOf_joined isSlugWord_lowered

/-- A text of this form is its own slug. -/
theorem IsSlug.slug_eq_self {text : String} (isSlug : IsSlug text) : slug text = text := by
  obtain ⟨words, each, spelled⟩ := isSlug
  have same : words.map lowered = words := by
    refine (List.map_congr_left fun word mem => ?_).trans (List.map_id words)
    have unchanged : word.map Char.toLower = word.map id :=
      List.map_congr_left fun c inside => toLower_of_isSlugChar ((each word mem).2 c inside)
    exact unchanged.trans (List.map_id word)
  rw [slug, slugChars_eq, spelled, wordsOf_joined each, same, ← spelled, String.ofList_toList]

/-- The texts that are their own slug are those of the form of a slug. -/
theorem slug_eq_self_iff {text : String} : slug text = text ↔ IsSlug text :=
  ⟨fun same => same ▸ isSlug_slug text, IsSlug.slug_eq_self⟩

/-! ### One pass -/

/-- What is written behind a text for one more character: a letter or digit in lower case, and a
hyphen for any other one, unless there is a hyphen already. -/
def foldChar (written : List Char) (c : Char) : List Char :=
  if isWordChar c then written ++ [c.toLower]
  else if written.getLast? = some '-' then written
  else written ++ ['-']

/-- Letters and digits are written in lower case. -/
theorem foldl_foldChar_word {word : List Char} (letters : ∀ c ∈ word, isWordChar c = true)
    (written : List Char) : word.foldl foldChar written = written ++ lowered word := by
  induction word generalizing written with
  | nil => exact (List.append_nil written).symm
  | cons c rest ih =>
    obtain ⟨here, others⟩ := List.forall_mem_cons.1 letters
    rw [List.foldl_cons, ih others, foldChar, if_pos here, List.append_assoc]
    rfl

/-- Any other characters are one hyphen, if there is one of them and no hyphen is there already. -/
theorem foldl_foldChar_gap {gap : List Char} (others : ∀ c ∈ gap, isWordChar c = false)
    (written : List Char) :
    gap.foldl foldChar written =
      if gap = [] ∨ written.getLast? = some '-' then written else written ++ ['-'] := by
  induction gap generalizing written with
  | nil => rfl
  | cons c rest ih =>
    obtain ⟨here, behind⟩ := List.forall_mem_cons.1 others
    rw [List.foldl_cons, foldChar, here, if_neg Bool.false_ne_true, ih behind]
    by_cases ends : written.getLast? = some '-'
    · simp [ends]
    · simp [ends]

/-- A word in lower case does not end with a hyphen, whatever is in front of it. -/
theorem getLast?_append_lowered {word : List Char} (nonempty : word ≠ [])
    (letters : ∀ c ∈ word, isWordChar c = true) (front : List Char) :
    (front ++ lowered word).getLast? ≠ some '-' := by
  rw [lowered, List.getLast?_append, List.getLast?_map, List.getLast?_eq_some_getLast nonempty]
  exact fun same =>
    ne_hyphen_of_isWordChar (letters _ (List.getLast_mem nonempty)) (Option.some.inj same)

/-- The pass from the end of a run on: each further run has one hyphen in front of it, and there may
be one at the end. -/
theorem foldl_foldChar_behind {text : List Char} {runs : List (List Char)}
    (divided : Runs (fun c => !isWordChar c) text runs) {written : List Char}
    (stops : ∀ c ∈ text.head?, isWordChar c = false) (ends : written.getLast? ≠ some '-') :
    ∃ back, (back = [] ∨ back = ['-']) ∧
      text.foldl foldChar written =
        written ++ (runs.flatMap fun run => '-' :: lowered run) ++ back := by
  induction divided generalizing written with
  | @gap gap separated =>
    rw [foldl_foldChar_gap (by simpa using separated), List.flatMap_nil, List.append_nil]
    split
    · exact ⟨[], .inl rfl, (List.append_nil written).symm⟩
    · exact ⟨['-'], .inr rfl, rfl⟩
  | @run gap word rest runs separated nonempty inside behind _ ih =>
    have letters : ∀ c ∈ word, isWordChar c = true := by simpa using inside
    have apart : gap ≠ [] := by
      rintro rfl
      obtain ⟨c, tail, rfl⟩ := List.exists_cons_of_ne_nil nonempty
      exact Bool.false_ne_true ((stops c rfl).symm.trans (letters c List.mem_cons_self))
    have hyphen :=
      foldl_foldChar_gap (by simpa using separated : ∀ c ∈ gap, isWordChar c = false) written
    rw [if_neg (not_or.2 ⟨apart, ends⟩)] at hyphen
    obtain ⟨back, either, rewritten⟩ := ih (by simpa using behind)
      (getLast?_append_lowered nonempty letters (written ++ ['-']))
    refine ⟨back, either, ?_⟩
    rw [List.foldl_append, List.foldl_append, hyphen, foldl_foldChar_word letters, rewritten]
    simp

/-- Words with a hyphen between each two have one in front of each but the first. -/
theorem joined_cons (word : List Char) (rest : List (List Char)) :
    joined '-' (word :: rest) = word ++ rest.flatMap fun word => '-' :: word := by
  induction rest generalizing word with
  | nil => simp [joined]
  | cons next rest ih => rw [joined, ih, List.flatMap_cons, List.cons_append]; simp

/-- One pass over an identifier writes its slug, and hyphens around it. -/
theorem hyphenTrimmed_foldl (id : List Char) :
    hyphenTrimmed (id.foldl foldChar []) = slugChars id := by
  have divided := runs_words (fun c => !isWordChar c) id
  have ends := @ends_slugChars id
  rw [slugChars_eq, wordsOf] at ends ⊢
  generalize words (fun c => !isWordChar c) id = runs at divided ends ⊢
  cases divided with
  | gap separated =>
    rw [foldl_foldChar_gap (by simpa using separated)]
    split <;> rfl
  | @run gap word rest runs separated nonempty inside behind others =>
    have letters : ∀ c ∈ word, isWordChar c = true := by simpa using inside
    obtain ⟨front, isFront, written⟩ : ∃ front, (∀ c ∈ front, c = '-') ∧
      gap.foldl foldChar [] = front := by
      rw [foldl_foldChar_gap (by simpa using separated)]
      split
      · exact ⟨[], by simp, rfl⟩
      · exact ⟨['-'], by simp, rfl⟩
    obtain ⟨back, isBack, rewritten⟩ := foldl_foldChar_behind others (by simpa using behind)
      (getLast?_append_lowered nonempty letters front)
    rw [List.map_cons, joined_cons, List.flatMap_map] at ends ⊢
    rw [List.foldl_append, List.foldl_append, written, foldl_foldChar_word letters, rewritten,
      List.append_assoc, List.append_assoc, ← List.append_assoc (lowered word)]
    obtain ⟨c, tail, rfl⟩ := List.exists_cons_of_ne_nil nonempty
    refine hyphenTrimmed_around isFront ?_ ?_ ?_
    · rcases isBack with rfl | rfl <;> simp
    · exact fun first =>
        ne_hyphen_of_isWordChar (letters c List.mem_cons_self) (Option.some.inj first)
    · obtain ⟨last, isLast, other⟩ :=
        ends (List.append_ne_nil_of_left_ne_nil (List.cons_ne_nil _ _) _)
      rw [Option.mem_def.1 isLast]
      exact fun same => other (Option.some.inj same)

/-! ### The slug of an identifier -/

/-- **A slug is the words of its identifier in lower case.** The identifier divides into maximal
runs of letters and digits in one way, and the slug is those runs in lower case, with single hyphens
between them, so it divides into them again. It is what one pass writes behind itself, without the
hyphens around it. To take the slug of a slug changes nothing, and nothing is in a slug that
separates in an identifier, in a file name or between quotes. -/
theorem slug_canonical (id : String) :
    (∃ runs, (∀ other, Runs (fun c => !isWordChar c) id.toList other ↔ other = runs) ∧
      (slug id).toList = joined '-' (runs.map lowered) ∧
      Runs (fun c => !isWordChar c) (slug id).toList (runs.map lowered)) ∧
    IsSlug (slug id) ∧
    slug (slug id) = slug id ∧
    (slug id).toList = hyphenTrimmed (id.toList.foldl foldChar []) ∧
    ∀ c ∈ (slug id).toList, (isSlugChar c = true ∨ c = '-') ∧ c ∉ ":;./\\\"'".toList := by
  have chars : (slug id).toList = slugChars id.toList := String.toList_ofList
  have isSlug := isSlug_slug id
  refine ⟨⟨wordsOf id.toList, fun other => runs_iff, chars, ?_⟩, isSlug, slug_eq_self_iff.2 isSlug,
    chars.trans (hyphenTrimmed_foldl id.toList).symm, fun c mem => ?_⟩
  · rw [runs_iff, chars, ← wordsOf_slugChars]
    rfl
  · obtain ⟨words, each, spelled⟩ := isSlug
    have kind : isSlugChar c = true ∨ c = '-' := by
      rcases Text.mem_joined (spelled ▸ mem) with hyphen | ⟨word, listed, inside⟩
      · exact .inr hyphen
      · exact .inl ((each word listed).2 c inside)
    refine ⟨kind, fun reserved => ?_⟩
    obtain ⟨large, other⟩ := isSlugChar_of_reserved c reserved
    exact kind.elim (fun small => Bool.false_ne_true (large.symm.trans small)) other

end SceneMarkup.Naming
