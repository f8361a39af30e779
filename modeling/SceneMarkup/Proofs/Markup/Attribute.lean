import SceneMarkup.Markup.Attribute
import SceneMarkup.Proofs.Markup.Escape
import SceneMarkup.Proofs.Naming.ClassName

/-!
# Attributes read back

* `IsKebabCase`, `flatMap_hyphenated_camelCase`: a property in kebab case is known from its name in
  JSX;
* `Declaration.IsReadable`, `IsClassName`, `Head.IsReadable`: declarations, classes and tags that
  cannot be taken for what stands between them;
* `readsBack_styleAttribute`, `readsBack_classAttribute`: the two attributes read back, whatever
  follows;
* `readsBack_openTag`: so do opening tags in front of what ends them.
-/

namespace SceneMarkup

open Css (Declaration)
open Text (Anything ReadsBack StopsAt readsBack_intercalate readsBack_until
  stopsAt_cons stopsAt_nil)

/-! ### Properties -/

/-- Lower-case words with single hyphens between them, and perhaps one in front. -/
def IsKebabCase (property : String) : Prop :=
  ∃ words : List (List Char), words ≠ [] ∧
    (∀ word ∈ words, word ≠ [] ∧ ∀ c ∈ word, c.isLower = true) ∧
    (property.toList = Text.joined '-' words ∨ property.toList = '-' :: Text.joined '-' words)

/-- What holds of the first characters holds of every lower-case letter. -/
theorem forall_isLower {p : Char → Prop}
    (first : ∀ n < 128, (Char.ofNat n).isLower = true → p (Char.ofNat n)) {c : Char}
    (lower : c.isLower = true) : p c :=
  Text.forall_isAlphanum (p := fun c => c.isLower = true → p c) (fun n small _ => first n small)
    (Text.isAlphanum_of_isLower lower) lower

theorem ne_of_isLower {c : Char} (lower : c.isLower = true) {d : Char} (other : d.isLower = false) :
    c ≠ d := by
  rintro rfl
  rw [lower] at other
  cases other

namespace Markup

/-- A capital as a hyphen and a small letter, other characters as themselves. -/
def hyphenated (c : Char) : List Char := if c.isUpper then ['-', c.toLower] else [c]

theorem hyphenated_toUpper {c : Char} (lower : c.isLower = true) :
    hyphenated c.toUpper = ['-', c] :=
  forall_isLower (p := fun c => hyphenated c.toUpper = ['-', c]) (by decide +kernel) lower

theorem hyphenated_of_isLower {c : Char} (lower : c.isLower = true) : hyphenated c = [c] :=
  forall_isLower (p := fun c => hyphenated c = [c]) (by decide +kernel) lower

theorem flatMap_hyphenated {word : List Char} (lower : ∀ c ∈ word, c.isLower = true) :
    word.flatMap hyphenated = word := by
  induction word with
  | nil => rfl
  | cons c rest ih =>
    obtain ⟨first, others⟩ := List.forall_mem_cons.1 lower
    rw [List.flatMap_cons, hyphenated_of_isLower first, ih others, List.singleton_append]

/-- A word stays as it is. -/
theorem camelCaseRest_word {word : List Char} (lower : ∀ c ∈ word, c.isLower = true)
    (rest : List Char) : camelCaseRest false (word ++ rest) = word ++ camelCaseRest false rest := by
  induction word with
  | nil => rfl
  | cons c word ih =>
    obtain ⟨first, others⟩ := List.forall_mem_cons.1 lower
    rw [List.cons_append, camelCaseRest, if_neg (ne_of_isLower first (by decide)), ih others]
    rfl

/-- Behind a hyphen the words get back the hyphens in front of them. -/
theorem flatMap_hyphenated_camelCaseRest {words : List (List Char)} (nonempty : words ≠ [])
    (each : ∀ word ∈ words, word ≠ [] ∧ ∀ c ∈ word, c.isLower = true) :
    (camelCaseRest true (Text.joined '-' words)).flatMap hyphenated =
      '-' :: Text.joined '-' words := by
  -- The first letter of a word carries the hyphen.
  have front : ∀ word rest, word ≠ [] → (∀ c ∈ word, c.isLower = true) →
      (camelCaseRest true (word ++ rest)).flatMap hyphenated =
        '-' :: word ++ (camelCaseRest false rest).flatMap hyphenated := by
    intro word rest letters lower
    obtain ⟨c, word, rfl⟩ := List.exists_cons_of_ne_nil letters
    obtain ⟨first, others⟩ := List.forall_mem_cons.1 lower
    rw [List.cons_append, camelCaseRest, if_neg (ne_of_isLower first (by decide)), if_pos rfl,
      camelCaseRest_word others, List.flatMap_cons, hyphenated_toUpper first, List.flatMap_append,
      flatMap_hyphenated others]
    simp
  induction words with
  | nil => exact absurd rfl nonempty
  | cons word rest ih =>
    obtain ⟨⟨someFirst, lower⟩, others⟩ := List.forall_mem_cons.1 each
    cases rest with
    | nil => simpa [Text.joined, camelCaseRest] using front word [] someFirst lower
    | cons second rest =>
      rw [Text.joined_cons_ne_nil _ _ (List.cons_ne_nil _ _), front _ _ someFirst lower,
        camelCaseRest, if_pos rfl, ih (List.cons_ne_nil _ _) others, List.cons_append]

/-- A property in kebab case is known from its name in JSX. -/
theorem flatMap_hyphenated_camelCase {property : String} (kebab : IsKebabCase property) :
    (camelCase property).toList.flatMap hyphenated = property.toList := by
  obtain ⟨words, nonempty, each, plain | leading⟩ := kebab
  · obtain ⟨word, rest, rfl⟩ := List.exists_cons_of_ne_nil nonempty
    obtain ⟨⟨-, lower⟩, others⟩ := List.forall_mem_cons.1 each
    rw [camelCase, String.toList_ofList, plain]
    cases rest with
    | nil => simpa [Text.joined, camelCaseRest, flatMap_hyphenated lower] using
        congrArg (List.flatMap hyphenated) (camelCaseRest_word lower [])
    | cons second rest =>
      rw [Text.joined_cons_ne_nil _ _ (List.cons_ne_nil _ _), camelCaseRest_word lower,
        camelCaseRest, if_pos rfl, List.flatMap_append, flatMap_hyphenated lower,
        flatMap_hyphenated_camelCaseRest (List.cons_ne_nil _ _) others]
  · rw [camelCase, String.toList_ofList, leading, camelCaseRest, if_pos rfl,
      flatMap_hyphenated_camelCaseRest nonempty each]

theorem mem_camelCaseRest {c : Char} {text : List Char} : ∀ {afterHyphen : Bool},
    c ∈ camelCaseRest afterHyphen text → ∃ d ∈ text, c = d ∨ c = d.toUpper := by
  induction text with
  | nil => simp [camelCaseRest]
  | cons d rest ih =>
    intro afterHyphen mem
    rw [camelCaseRest] at mem
    split at mem
    · obtain ⟨e, inside, same⟩ := ih mem
      exact ⟨e, List.mem_cons_of_mem _ inside, same⟩
    · rcases List.mem_cons.1 mem with rfl | mem
      · refine ⟨d, List.mem_cons_self, ?_⟩
        cases afterHyphen <;> simp
      · obtain ⟨e, inside, same⟩ := ih mem
        exact ⟨e, List.mem_cons_of_mem _ inside, same⟩

end Markup

namespace IsKebabCase

variable {property : String}

theorem hyphen_or_isLower (kebab : IsKebabCase property) {c : Char} (mem : c ∈ property.toList) :
    c = '-' ∨ c.isLower = true := by
  obtain ⟨words, -, each, shape⟩ := kebab
  have joined : c = '-' ∨ c ∈ Text.joined '-' words := by
    rcases shape with plain | leading
    · exact .inr (plain ▸ mem)
    · exact List.mem_cons.1 (leading ▸ mem)
  rcases joined with hyphen | inside
  · exact .inl hyphen
  · rcases Text.mem_joined inside with hyphen | ⟨word, listed, inWord⟩
    · exact .inl hyphen
    · exact .inr ((each word listed).2 c inWord)

/-- A property has no colon. -/
theorem ne_colon (kebab : IsKebabCase property) : ∀ c ∈ property.toList, c ≠ ':' := by
  rintro c mem rfl
  rcases kebab.hyphen_or_isLower mem with hyphen | lower
  · exact absurd hyphen (by decide)
  · exact absurd lower (by decide)

/-- The name of a property in JSX has no colon, either. -/
theorem camelCase_ne_colon (kebab : IsKebabCase property) :
    ∀ c ∈ (Markup.camelCase property).toList, c ≠ ':' := by
  have upper : ∀ {c : Char}, c.isLower = true → c.toUpper ≠ ':' :=
    fun lower => forall_isLower (p := fun c => c.toUpper ≠ ':') (by decide +kernel) lower
  intro c mem
  rw [Markup.camelCase, String.toList_ofList] at mem
  obtain ⟨d, inside, rfl | rfl⟩ := Markup.mem_camelCaseRest mem
  · exact kebab.ne_colon c inside
  · rcases kebab.hyphen_or_isLower inside with rfl | lower
    · decide
    · exact upper lower

/-- Two properties with one name in JSX are the same. -/
theorem eq_of_camelCase_eq {property' : String} (kebab : IsKebabCase property)
    (kebab' : IsKebabCase property')
    (same : Markup.camelCase property = Markup.camelCase property') :
    property = property' := by
  apply String.toList_injective
  rw [← Markup.flatMap_hyphenated_camelCase kebab, same, Markup.flatMap_hyphenated_camelCase kebab']

end IsKebabCase

/-! ### What can be read back -/

/-- A declaration of a property in kebab case, whose value has no semicolon. -/
structure Css.Declaration.IsReadable (d : Declaration) : Prop where
  property : IsKebabCase d.property
  value : ';' ∉ d.value.toList

/-- A name of some characters that class names keep. -/
def IsClassName (name : String) : Prop := name ≠ "" ∧ Naming.IsClassText name

instance : DecidablePred IsClassName := fun name =>
  inferInstanceAs (Decidable (name ≠ "" ∧ Naming.IsClassText name))

/-- A tag, classes and declarations that can be read back, and no picture. -/
structure Head.IsReadable (head : Head) : Prop where
  tag : head.tag ∈ ["div", "p", "span"]
  classes : ∀ name ∈ head.classes, IsClassName name
  style : ∀ d ∈ head.style, d.IsReadable
  picture : head.picture = none

namespace Markup

/-! ### Style -/

variable {d : Declaration}

/-- A declaration in a style attribute reads back up to a semicolon. -/
theorem readsBack_text (readable : d.IsReadable) :
    ReadsBack Declaration.IsReadable (StopsAt (· ≠ ';')) (fun d => d.text.toList) d := by
  intro e s t readable' first second same
  simp only [Declaration.text, String.toList_append, List.append_assoc] at same
  obtain ⟨property, rest⟩ := readsBack_until readable.property.ne_colon readable'.property.ne_colon
    (by simp) (by simp) same
  obtain ⟨value, rest⟩ := readsBack_until (List.forall_mem_ne'.2 readable.value)
    (List.forall_mem_ne'.2 readable'.value) first second (List.append_cancel_left rest)
  refine ⟨?_, rest⟩
  cases d
  cases e
  rw [Declaration.mk.injEq]
  exact ⟨String.toList_injective property, String.toList_injective value⟩

/-- A declaration in a JSX style reads back, whatever follows. -/
theorem readsBack_jsxEntry (readable : d.IsReadable) :
    ReadsBack Declaration.IsReadable Anything (fun d => (jsxEntry d).toList) d := by
  intro e s t readable' _ _ same
  simp only [jsxEntry, String.toList_append, List.append_assoc] at same
  obtain ⟨name, rest⟩ := readsBack_until readable.property.camelCase_ne_colon
    readable'.property.camelCase_ne_colon (by simp) (by simp) same
  obtain ⟨value, rest⟩ := readsBack_quote d.value trivial trivial trivial
    (List.append_cancel_left rest)
  refine ⟨?_, rest⟩
  have property :=
    readable.property.eq_of_camelCase_eq readable'.property (String.toList_injective name)
  cases d
  cases e
  rw [Declaration.mk.injEq]
  exact ⟨property, value⟩

/-- A text in a style attribute ends at a quote. -/
theorem readsBack_attributeText (text : List Char) :
    ReadsBack (fun _ => True) (fun s => ∃ rest, s = '"' :: rest)
      (Escape.escapeChars .html) text := by
  have chars : ReadsBack (fun text => ∀ c ∈ text, True) (fun s => ∃ rest, s = '"' :: rest)
      (Escape.escapeChars .html) text :=
    (Escape.escaping_escapeChar .html).readsBack_flatMap
      (fun s ⟨rest, isLast⟩ => ⟨'"', rest, isLast, by decide, fun _ => by decide⟩)
      fun _ _ => trivial
  exact chars.mono (fun _ _ _ _ => trivial) fun _ h => h

/-- A style attribute reads back, whatever follows. -/
theorem readsBack_styleAttribute (dialect : Dialect) {style : List Declaration}
    (nonempty : style ≠ []) (readable : ∀ d ∈ style, d.IsReadable) :
    ReadsBack (fun style : List Declaration => style ≠ [] ∧ ∀ d ∈ style, d.IsReadable) Anything
      (fun style => (styleAttribute dialect style).toList) style := by
  intro other s t readable' _ _ same
  cases dialect with
  | html =>
    simp only [styleAttribute, Escape.escape, String.toList_append, String.toList_ofList,
      String.toList_intercalate, List.map_map, List.append_assoc,
      List.append_cancel_left_eq] at same
    obtain ⟨body, rest⟩ := readsBack_attributeText _ trivial ⟨s, rfl⟩ ⟨t, rfl⟩ same
    -- The whole text of the attribute is known, and ends behind the last declaration.
    have items := readsBack_intercalate "; ".toList (· = []) (by simp) (by simp) (by simp)
      nonempty readable fun d mem => readsBack_text (readable d mem)
    exact ⟨(items readable' rfl rfl (congrArg (· ++ []) body)).1, (List.cons.inj rest).2⟩
  | jsx =>
    simp only [styleAttribute, String.toList_append, String.toList_intercalate, List.map_map,
      List.append_assoc, List.append_cancel_left_eq] at same
    have items := readsBack_intercalate ", ".toList
      (fun s => ∃ rest, s = " \x7d\x7d".toList ++ rest) (by simp) (by simp) (by simp)
      nonempty readable fun d mem => readsBack_jsxEntry (readable d mem)
    obtain ⟨rfl, rest⟩ := items readable' ⟨s, rfl⟩ ⟨t, rfl⟩ same
    exact ⟨rfl, List.append_cancel_left rest⟩

/-! ### Classes -/

/-- A class attribute reads back, whatever follows. -/
theorem readsBack_classAttribute (dialect : Dialect) {classes : List String}
    (nonempty : classes ≠ []) (readable : ∀ name ∈ classes, IsClassName name) :
    ReadsBack (fun classes : List String => classes ≠ [] ∧ ∀ name ∈ classes,
      IsClassName name) Anything
      (fun classes => (classAttribute dialect classes).toList) classes := by
  intro other s t readable' _ _ same
  have name : ∀ name ∈ classes, ReadsBack IsClassName (StopsAt fun c => Naming.isClassChar c = true)
      String.toList name := by
    intro name mem other s t readable' first second same
    obtain ⟨chars, rest⟩ := readsBack_until (readable name mem).2 readable'.2 first second same
    exact ⟨String.toList_injective chars, rest⟩
  have items := readsBack_intercalate " ".toList (fun s => ∃ rest, s = '"' :: rest)
    (by intro u; exact stopsAt_cons.2 (by decide))
      (by rintro _ ⟨rest, rfl⟩; exact stopsAt_cons.2 (by decide))
    (by rintro _ ⟨rest, rfl⟩ u same; cases same) nonempty readable name
  simp only [classAttribute, String.toList_append, String.toList_intercalate, List.append_assoc,
    List.append_cancel_left_eq] at same
  obtain ⟨rfl, rest⟩ := items readable' ⟨s, rfl⟩ ⟨t, rfl⟩ same
  exact ⟨rfl, (List.cons.inj rest).2⟩

/-! ### Opening tags -/

/-- Items as they are written, or nothing if there are none. -/
def ifAny {α : Type} (write : List α → String) (items : List α) : String :=
  if items.isEmpty then "" else write items

theorem openTag_eq (dialect : Dialect) (head : Head) :
    openTag dialect head =
      "<" ++ head.tag ++ ifAny (classAttribute dialect) head.classes ++
        ifAny (styleAttribute dialect) head.style :=
  rfl

theorem ifAny_cases {α : Type} (write : List α → String) (items : List α) :
    ifAny write items = "" ∨ ifAny write items = write items := by
  unfold ifAny
  split
  · exact .inl rfl
  · exact .inr rfl

/-- Items that are written only if there are some read back in front of what does not look like
them. -/
theorem readsBack_ifAny {α : Type} {kind : List α → Prop} {write : List α → String}
    {front : List Char} (begins : ∀ items, front <+: (write items).toList) {items : List α}
    (each : items ≠ [] → ReadsBack (fun items => items ≠ [] ∧ kind items) Anything
      (fun items => (write items).toList) items) :
    ReadsBack kind (fun s => ¬ front <+: s) (fun items => (ifAny write items).toList) items := by
  intro others s t isKind first second same
  have skipped : ∀ (items : List α) (s u : List Char), ¬ front <+: s →
      s ≠ (write items).toList ++ u := by
    rintro items s u other rfl
    exact other ((begins items).trans (List.prefix_append _ u))
  cases items with
  | nil =>
    cases others with
    | nil => exact ⟨rfl, by simpa [ifAny] using same⟩
    | cons b bs => exact absurd (by simpa [ifAny] using same) (skipped (b :: bs) s t first)
  | cons a as =>
    cases others with
    | nil => exact absurd (by simpa [ifAny] using same.symm) (skipped (a :: as) t s second)
    | cons b bs =>
      exact each (List.cons_ne_nil a as) ⟨List.cons_ne_nil b bs, isKind⟩ trivial trivial
        (by simpa [ifAny] using same)

theorem prefix_classAttribute (dialect : Dialect) (classes : List String) :
    " c".toList <+: (classAttribute dialect classes).toList := by
  cases dialect <;> simp [classAttribute]

theorem prefix_styleAttribute (dialect : Dialect) (style : List Declaration) :
    " s".toList <+: (styleAttribute dialect style).toList := by
  cases dialect <;> simp [styleAttribute]

/-- What ends an opening tag: a bracket, or what closes an element at once. -/
def EndsTag (s : List Char) : Prop := ∃ rest, s = '>' :: rest ∨ s = " />".toList ++ rest

/-- What ends a tag is no style. -/
theorem EndsTag.not_style {s : List Char} (ends : EndsTag s) : ¬ " s".toList <+: s := by
  obtain ⟨rest, rfl | rfl⟩ := ends <;> simp

/-- What follows the classes of a tag are no classes. -/
theorem EndsTag.not_classes {s : List Char} (ends : EndsTag s) (dialect : Dialect)
    (style : List Declaration) :
    ¬ " c".toList <+: (ifAny (styleAttribute dialect) style).toList ++ s := by
  rcases ifAny_cases (styleAttribute dialect) style with empty | written
  · rw [empty]
    obtain ⟨rest, rfl | rfl⟩ := ends <;> simp
  · rw [written]
    obtain ⟨rest, shape⟩ := prefix_styleAttribute dialect style
    rw [← shape]
    simp

/-- What follows the name of a tag is no letter. -/
theorem EndsTag.stopsAt_isLower {s : List Char} (ends : EndsTag s) (dialect : Dialect)
    (classes : List String) (style : List Declaration) :
    StopsAt (fun c => c.isLower = true) ((ifAny (classAttribute dialect) classes).toList ++
      ((ifAny (styleAttribute dialect) style).toList ++ s)) := by
  rcases ifAny_cases (classAttribute dialect) classes with empty | written
  · rcases ifAny_cases (styleAttribute dialect) style with empty' | written'
    · rw [empty, empty']
      obtain ⟨rest, rfl | rfl⟩ := ends <;> simp
    · rw [empty, written']
      obtain ⟨rest, shape⟩ := prefix_styleAttribute dialect style
      rw [← shape]
      simp
  · rw [written]
    obtain ⟨rest, shape⟩ := prefix_classAttribute dialect classes
    rw [← shape]
    simp

/-- An opening tag reads back in front of what ends it. -/
theorem readsBack_openTag (dialect : Dialect) {head : Head} (readable : head.IsReadable) :
    ReadsBack Head.IsReadable EndsTag (fun head => (openTag dialect head).toList) head := by
  intro other s t readable' first second same
  have lower : ∀ tag ∈ ["div", "p", "span"], Text.IsOf Char.isLower tag := by decide
  simp only [openTag_eq, String.toList_append, List.append_assoc,
    List.append_cancel_left_eq] at same
  obtain ⟨tag, same⟩ := readsBack_until (lower _ readable.tag) (lower _ readable'.tag)
    (first.stopsAt_isLower dialect _ _) (second.stopsAt_isLower dialect _ _) same
  obtain ⟨classes, same⟩ := readsBack_ifAny (prefix_classAttribute dialect)
    (fun nonempty => readsBack_classAttribute dialect nonempty readable.classes) readable'.classes
    (first.not_classes dialect _) (second.not_classes dialect _) same
  obtain ⟨style, same⟩ := readsBack_ifAny (prefix_styleAttribute dialect)
    (fun nonempty => readsBack_styleAttribute dialect nonempty readable.style) readable'.style
    first.not_style second.not_style same
  refine ⟨?_, same⟩
  have picture := readable.picture.trans readable'.picture.symm
  cases head
  cases other
  rw [Head.mk.injEq]
  exact ⟨String.toList_injective tag, classes, style, picture⟩

end Markup

end SceneMarkup
