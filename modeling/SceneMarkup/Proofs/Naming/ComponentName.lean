import SceneMarkup.Naming.ComponentName
import SceneMarkup.Proofs.Naming.ClassName
import SceneMarkup.Proofs.Text.Runs

/-!
# Component names

The name of a component is a capital letter with letters and digits behind it, so it is a name of a
function, of an element with a capital, and of a file. It has all letters and digits of the layer
name, of which only those that begin a word are changed.

* `IsComponentName`: a name of this form;
* `titled`: the letters and digits of a text, with a capital wherever a word begins;
* `flatMap_capitalized`: they are the words of the text, each with a capital in front;
* `isComponentName_componentName`: the name of a component is of this form;
* `componentName_eq_self_iff`: the names of this form are those that are their own component name;
* `componentName_legal`: what all that says about the name of a component.
-/

namespace SceneMarkup.Naming

open Text (IsOf Runs forall_isAlphanum isAlphanum_of_isDigit isOf_ofList runs_words
  words_of_forall_not)

/-- A capital letter, and letters and digits behind it. -/
structure IsComponentName (text : String) : Prop where
  begins : text.toList.head?.any Char.isUpper = true
  isWord : IsOf isWordChar text

instance : DecidablePred IsComponentName := fun text =>
  decidable_of_iff (text.toList.head?.any Char.isUpper = true ∧ IsOf isWordChar text)
    ⟨fun h => ⟨h.1, h.2⟩, fun h => ⟨h.1, h.2⟩⟩

/-- The letters and digits of a text, with a capital wherever none of them is in front. -/
def titled (inside : Bool) : List Char → List Char
  | [] => []
  | c :: rest =>
    if isWordChar c then (if inside then c else c.toUpper) :: titled true rest
      else titled false rest

/-! ### Characters -/

theorem isWordChar_toUpper {c : Char} (word : isWordChar c = true) : isWordChar c.toUpper = true :=
  forall_isAlphanum (p := fun c => isWordChar c.toUpper = true) (by decide +kernel) word

theorem toLower_toUpper {c : Char} (word : isWordChar c = true) : c.toUpper.toLower = c.toLower :=
  forall_isAlphanum (p := fun c => c.toUpper.toLower = c.toLower) (by decide +kernel) word

/-- What begins a word is a capital then, or a digit. -/
theorem isUpper_toUpper {c : Char} (word : isWordChar c = true) :
    c.toUpper.isUpper = true ∨ c.toUpper.isDigit = true :=
  forall_isAlphanum (p := fun c => c.toUpper.isUpper = true ∨ c.toUpper.isDigit = true)
    (by decide +kernel) word

theorem toUpper_of_isUpper {c : Char} (capital : c.isUpper = true) : c.toUpper = c :=
  forall_isAlphanum (p := fun c => c.isUpper = true → c.toUpper = c) (by decide +kernel)
    (Bool.or_eq_true_iff.2 (.inl (Bool.or_eq_true_iff.2 (.inl capital)))) capital

theorem not_isDigit_of_isUpper {c : Char} (capital : c.isUpper = true) : c.isDigit = false :=
  forall_isAlphanum (p := fun c => c.isUpper = true → c.isDigit = false) (by decide +kernel)
    (Bool.or_eq_true_iff.2 (.inl (Bool.or_eq_true_iff.2 (.inl capital)))) capital

/-! ### Letters and digits of a text -/

/-- Inside of a word nothing is changed, up to its end. -/
theorem titled_word {word : List Char} (letters : ∀ c ∈ word, isWordChar c = true)
    (rest : List Char) :
    titled true (word ++ rest) = word ++ titled true rest := by
  induction word with
  | nil => rfl
  | cons c word ih =>
    obtain ⟨here, others⟩ := List.forall_mem_cons.1 letters
    rw [List.cons_append, titled, if_pos here, if_pos rfl, ih others, List.cons_append]

/-- Other characters are left out. -/
theorem titled_gap {gap : List Char} (others : ∀ c ∈ gap, isWordChar c = false) (rest : List Char) :
    titled false (gap ++ rest) = titled false rest := by
  induction gap with
  | nil => rfl
  | cons c gap ih =>
    obtain ⟨here, behind⟩ := List.forall_mem_cons.1 others
    rw [List.cons_append, titled, here, if_neg Bool.false_ne_true, ih behind]

/-- Where a word ends it does not matter that there was one. -/
theorem titled_of_stops {text : List Char} (stops : ∀ c ∈ text.head?, isWordChar c = false)
    (inside : Bool) :
    titled inside text = titled false text := by
  cases text with
  | nil => rfl
  | cons c rest =>
    have other : isWordChar c = false := stops c rfl
    rw [titled, titled, other, if_neg Bool.false_ne_true, if_neg Bool.false_ne_true]

/-- The words of a text, each with a capital in front, are its letters and digits. -/
theorem flatMap_capitalized (text : List Char) :
    (wordsOf text).flatMap capitalized = titled false text := by
  have divided := runs_words (fun c => !isWordChar c) text
  rw [wordsOf]
  generalize Text.words (fun c => !isWordChar c) text = runs at divided
  induction divided with
  | @gap gap separated =>
    have skipped := titled_gap (by simpa using separated : ∀ c ∈ gap, isWordChar c = false) []
    rw [List.append_nil] at skipped
    rw [skipped]
    rfl
  | @run gap word rest runs separated nonempty inside stops _ ih =>
    obtain ⟨c, word, rfl⟩ := List.exists_cons_of_ne_nil nonempty
    obtain ⟨here, letters⟩ :=
      List.forall_mem_cons.1 (by simpa using inside : ∀ d ∈ c :: word, isWordChar d = true)
    rw [titled_gap (by simpa using separated), List.cons_append, titled, if_pos here,
      titled_word letters, titled_of_stops (by simpa using stops), ← ih]
    rfl

/-- Letters and digits stay letters and digits. -/
theorem isWordChar_titled (inside : Bool) (text : List Char) :
    ∀ c ∈ titled inside text, isWordChar c = true := by
  induction text generalizing inside with
  | nil => exact fun c mem => by cases mem
  | cons c rest ih =>
    rw [titled]
    split
    · next word =>
      refine List.forall_mem_cons.2 ⟨?_, ih true⟩
      split
      · exact word
      · exact isWordChar_toUpper word
    · exact ih false

/-- No letter or digit is lost, and none is moved: up to their case they are those of the text. -/
theorem map_toLower_titled (inside : Bool) (text : List Char) :
    (titled inside text).map Char.toLower = (text.filter isWordChar).map Char.toLower := by
  induction text generalizing inside with
  | nil => rfl
  | cons c rest ih =>
    rw [titled, List.filter_cons]
    split
    · next word =>
      rw [List.map_cons, List.map_cons, ih true]
      split
      · rfl
      · rw [toLower_toUpper word]
    · exact ih false

/-- They begin with a capital, or with a digit. -/
theorem begins_titled {text : List Char} :
    ∀ c ∈ (titled false text).head?, c.isUpper = true ∨ c.isDigit = true := by
  induction text with
  | nil => exact fun c mem => by cases mem
  | cons c rest ih =>
    rw [titled]
    split
    · next word =>
      intro d first
      obtain rfl := Option.some.inj first
      exact isUpper_toUpper word
    · exact ih

/-! ### Names of components -/

/-- The name of a component is the letters and digits of the layer name, behind `Component` if they
begin with a digit or if there are none. -/
theorem componentChars_eq (name : List Char) :
    componentChars name =
      (if (titled false name).head?.all Char.isDigit then "Component".toList else []) ++
        titled false name := by
  rw [componentChars, flatMap_capitalized]
  cases titled false name with
  | nil => rfl
  | cons c rest =>
    show (if c.isDigit = true then _ else _) = _
    cases digit : c.isDigit <;> simp [digit]

theorem isComponentName_componentName (name : String) : IsComponentName (componentName name) := by
  have letters := isWordChar_titled false name.toList
  refine ⟨?_, ?_⟩
  · rw [componentName, String.toList_ofList, componentChars_eq]
    split
    · rfl
    · next other =>
      rw [List.nil_append]
      cases first : (titled false name.toList).head? with
      | none => exact absurd (by rw [first]; rfl) other
      | some c =>
        rw [first, Option.all_some] at other
        exact (begins_titled c first).resolve_right other
  · refine isOf_ofList.2 ?_
    rw [componentChars_eq]
    refine List.forall_mem_append.2 ⟨?_, letters⟩
    split
    · exact (by decide : Text.IsOf isWordChar "Component")
    · exact fun c mem => by cases mem

/-- A name of this form is its own component name: it is one word, which begins with a capital. -/
theorem IsComponentName.componentName_eq_self {text : String} (legal : IsComponentName text) :
    componentName text = text := by
  obtain ⟨c, first, capital⟩ := (Option.any_eq_true _ _).1 legal.begins
  obtain ⟨rest, shape⟩ := List.head?_eq_some_iff.1 first
  have isWord := legal.isWord
  rw [IsOf, shape] at isWord
  obtain ⟨here, letters⟩ := List.forall_mem_cons.1 isWord
  have same : titled false text.toList = text.toList := by
    have behind := titled_word letters []
    rw [List.append_nil] at behind
    rw [shape, titled, if_pos here, if_neg Bool.false_ne_true, toUpper_of_isUpper capital, behind]
    exact congrArg (c :: ·) (List.append_nil rest)
  rw [componentName, componentChars_eq, same, first, Option.all_some,
    not_isDigit_of_isUpper capital, if_neg Bool.false_ne_true, List.nil_append,
    String.ofList_toList]

/-- The names that are their own component name are those of the form of one. -/
theorem componentName_eq_self_iff {text : String} :
    componentName text = text ↔ IsComponentName text :=
  ⟨fun same => same ▸ isComponentName_componentName text, IsComponentName.componentName_eq_self⟩

/-- **The name of a component is a capital letter with letters and digits behind it**, whatever the
layer is called. It has all letters and digits of the layer name in their order, those that begin a
word as capitals and the others as they are; in front of them stands nothing or, if they begin with
a digit or if there are none, `Component`. To take the component name of a component name changes
nothing. -/
theorem componentName_legal (name : String) :
    IsComponentName (componentName name) ∧
    (componentName name).toList =
      (if (titled false name.toList).head?.all Char.isDigit then "Component".toList else []) ++
        titled false name.toList ∧
    (titled false name.toList).map Char.toLower = (name.toList.filter isWordChar).map Char.toLower ∧
    componentName (componentName name) = componentName name := by
  have legal := isComponentName_componentName name
  refine ⟨legal, ?_, map_toLower_titled false name.toList, componentName_eq_self_iff.2 legal⟩
  rw [componentName, String.toList_ofList, componentChars_eq]

end SceneMarkup.Naming
