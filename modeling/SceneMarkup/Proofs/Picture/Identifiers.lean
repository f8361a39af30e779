import Mathlib.Data.List.Basic
import SceneMarkup.Proofs.Naming.ClassName
import SceneMarkup.Proofs.Picture.Renaming

/-!
# Identifiers of the pictures in one document

All pictures of a document share its identifiers. Each name of a picture gets the slug of its node
behind it, so that no reference of one picture finds a part of another.

* `identifiers`, `references`: the names that a picture gives to its parts, and the names it refers
  to;
* `identifiers_inlined`, `references_inlined`: they are those of the picture, each with the suffix;
* `Separate`: two pictures share no identifier, and neither refers to the other;
* `SlugsApart`: two slugs differ, and neither ends with a hyphen and the other;
* `inlined_separate_iff`: **pictures of two nodes are separate, whatever they hold, exactly if the
  slugs of the nodes are apart**;
* `slugsApart_iff_of_count_eq`: slugs of equally many words are apart if they differ.

A slug keeps neither what separates the words of an identifier nor their case, so different nodes
may have one slug; and a hyphen within a slug looks like the one in front of it.
-/

namespace SceneMarkup.Picture

open Naming (slug slugChars)

/-- The name that a token gives to a part of the picture. -/
def Token.identifier? : Token → Option (List Char)
  | .id _ _ name => some name
  | _ => none

/-- The name that a token refers to. -/
def Token.reference? : Token → Option (List Char)
  | .link _ _ _ name => some name
  | .address name => some name
  | _ => none

/-- The names that a text gives to its parts. -/
def identifiers (text : List Char) : List (List Char) := (tokens text).filterMap Token.identifier?

/-- The names that a text refers to. -/
def references (text : List Char) : List (List Char) := (tokens text).filterMap Token.reference?

/-- Two texts share no identifier, and neither refers to the other. -/
structure Separate (first second : List Char) : Prop where
  identifiers : (identifiers first).Disjoint (identifiers second)
  forward : (references first).Disjoint (Picture.identifiers second)
  backward : (references second).Disjoint (Picture.identifiers first)

/-! ### Names of renamed pictures -/

theorem identifier?_rename (suffix : List Char) (token : Token) :
    (token.rename suffix).identifier? = token.identifier?.map (· ++ '-' :: suffix) := by
  cases token <;> rfl

theorem reference?_rename (suffix : List Char) (token : Token) :
    (token.rename suffix).reference? = token.reference?.map (· ++ '-' :: suffix) := by
  cases token <;> rfl

variable {suffix : List Char}

/-- The identifiers of an inlined picture are those of what is shown of it, each with the suffix. -/
theorem identifiers_inlined (plain : ClosesNothing suffix) (text : List Char) :
    identifiers (inlinedChars text suffix) =
      (identifiers (body text)).map (· ++ '-' :: suffix) := by
  rw [identifiers, inlinedChars, ← written, tokens_written plain, List.filterMap_map, identifiers,
    List.map_filterMap]
  exact congrArg (List.filterMap · _) (funext (identifier?_rename suffix))

/-- The references of an inlined picture are those of what is shown of it, each with the suffix. -/
theorem references_inlined (plain : ClosesNothing suffix) (text : List Char) :
    references (inlinedChars text suffix) = (references (body text)).map (· ++ '-' :: suffix) := by
  rw [references, inlinedChars, ← written, tokens_written plain, List.filterMap_map, references,
    List.map_filterMap]
  exact congrArg (List.filterMap · _) (funext (reference?_rename suffix))

/-- What class names are made of closes no name. -/
theorem closesNothing_of_isClassChar (kept : ∀ c ∈ suffix, Naming.isClassChar c = true) :
    ClosesNothing suffix := by
  intro c mem
  have isClassChar := kept c mem
  refine ⟨?_, ?_⟩
  · rintro (rfl | rfl) <;> exact absurd isClassChar (by decide)
  · rintro rfl
    exact absurd isClassChar (by decide)

theorem closesNothing_slugChars (id : List Char) : ClosesNothing (slugChars id) :=
  closesNothing_of_isClassChar Naming.isClassChar_slugChars

/-! ### Slugs -/

/-- Two slugs differ, and neither ends with a hyphen and the other. -/
structure SlugsApart (a b : List Char) : Prop where
  different : slugChars a ≠ slugChars b
  forward : ¬ '-' :: slugChars b <:+ slugChars a
  backward : ¬ '-' :: slugChars a <:+ slugChars b

/-- Whatever stands in front of them, slugs that are apart give different names. -/
theorem SlugsApart.append_ne {a b : List Char} (apart : SlugsApart a b) (x y : List Char) :
    x ++ '-' :: slugChars a ≠ y ++ '-' :: slugChars b := by
  intro same
  rcases Text.append_cons_eq_append_cons_iff.1 same with ⟨-, same⟩ | ⟨w, -, ends⟩ | ⟨w, -, ends⟩
  · exact apart.different same
  · exact apart.forward ⟨w, ends.symm⟩
  · exact apart.backward ⟨w, ends.symm⟩

/-- Slugs of equally many words are apart if they differ. -/
theorem slugsApart_iff_of_count_eq {a b : List Char}
    (words : (slugChars a).count '-' = (slugChars b).count '-') :
    SlugsApart a b ↔ slugChars a ≠ slugChars b := by
  -- What ends with a hyphen and another text has a hyphen more.
  have fewer : ∀ {s t : List Char}, '-' :: t <:+ s → t.count '-' < s.count '-' := by
    rintro _ t ⟨w, rfl⟩
    rw [List.count_append, List.count_cons_self]
    omega
  exact ⟨SlugsApart.different, fun different =>
    ⟨different, fun ends => (fewer ends).ne' words, fun ends => (fewer ends).ne words⟩⟩

/-! ### A picture with a given identifier -/

theorem withoutSection_of_not_prefix {opening closing text : List Char}
    (other : ¬ opening <+: text) : withoutSection opening closing text = text := by
  have absent : after? opening text = none :=
    Option.eq_none_iff_forall_ne_some.2 fun rest h => other ⟨rest, (after?_eq_some_iff.1 h).symm⟩
  rw [withoutSection, absent]
  rfl

theorem dropWhile_isBlank_eq_self {text : List Char} (solid : ∀ c ∈ text.head?, isBlank c = false) :
    text.dropWhile isBlank = text := by
  cases text with
  | nil => rfl
  | cons c rest =>
    rw [List.dropWhile_cons_of_neg]
    rw [solid c rfl]
    exact Bool.false_ne_true

/-- What begins neither with a blank nor like a declaration has no declaration in front. -/
theorem withoutProlog_eq_self {text : List Char} (solid : ∀ c ∈ text.head?, isBlank c = false)
    (declaration : ¬ "<?xml".toList <+: text) (doctype : ¬ "<!DOCTYPE".toList <+: text) :
    withoutProlog text = text := by
  rw [withoutProlog, dropWhile_isBlank_eq_self solid, withoutSection_of_not_prefix declaration,
    dropWhile_isBlank_eq_self solid, withoutSection_of_not_prefix doctype,
    dropWhile_isBlank_eq_self solid]

/-- What begins with a tag has no declaration in front. -/
theorem withoutProlog_of_tag {c : Char} (letter : c ≠ '?' ∧ c ≠ '!') (rest : List Char) :
    withoutProlog ('<' :: c :: rest) = '<' :: c :: rest := by
  refine withoutProlog_eq_self (by simp; decide) ?_ ?_
  · simp [List.cons_prefix_cons, letter.1.symm]
  · simp [List.cons_prefix_cons, letter.2.symm]

theorem trimEnd_append_singleton {c : Char} (solid : Unicode.isWhiteSpace c = false)
    (text : List Char) :
    Unicode.trimEnd (text ++ [c]) = text ++ [c] := by
  simp [Unicode.trimEnd, solid]

/-- A picture of one element with an identifier. -/
def elementNamed (name : List Char) : List Char :=
  "<svg".toList ++ (" id=\x22".toList ++ (name ++ "\x22/>".toList))

theorem body_elementNamed (name : List Char) : body (elementNamed name) = elementNamed name := by
  have prolog : withoutProlog (elementNamed name) = elementNamed name :=
    withoutProlog_of_tag (by decide) _
  have ends : elementNamed name =
      "<svg".toList ++ (" id=\x22".toList ++ (name ++ "\x22/".toList)) ++ ['>'] := by
    simp [elementNamed]
  rw [body, prolog, ends, trimEnd_append_singleton (by decide)]

theorem identifiers_elementNamed {name : List Char} (absent : '\x22' ∉ name) :
    identifiers (elementNamed name) = [name] := by
  have form : Form ([' '] ++ "id=".toList ++ ['\x22']) '\x22' (Token.id [' '] '\x22') :=
    .id ⟨List.cons_ne_nil _ _, List.all_eq_true.1 rfl⟩ (.inl rfl)
  have front : tokens (elementNamed name) =
      .other "<svg".toList :: tokens (" id=\x22".toList ++ (name ++ "\x22/>".toList)) :=
    @tokens_of_other '<' "svg".toList _ (by simp; decide) (by simp; decide)
  have middle : tokens (" id=\x22".toList ++ (name ++ "\x22/>".toList)) =
      .id [' '] '\x22' name :: tokens "/>".toList := tokens_of_form form absent "/>".toList
  have back : tokens "/>".toList = [.other "/>".toList] := by
    have whole := @tokens_of_other '/' ['>'] [] (by simp; decide) (by simp)
    rwa [tokens] at whole
  rw [identifiers, front, middle, back]
  rfl

/-- An element keeps its identifier, with the suffix. -/
theorem identifiers_inlined_elementNamed {name : List Char} (absent : '\x22' ∉ name)
    (id : List Char) :
    identifiers (inlinedChars (elementNamed name) (slugChars id)) =
      [name ++ '-' :: slugChars id] := by
  rw [identifiers_inlined (closesNothing_slugChars id), body_elementNamed,
    identifiers_elementNamed absent]
  rfl

/-! ### Pictures of two nodes -/

theorem Separate.symm {first second : List Char} (separate : Separate first second) :
    Separate second first :=
  ⟨List.disjoint_symm separate.identifiers, separate.backward, separate.forward⟩

/-- Elements under some names share their identifier, if the slugs make the names the same. -/
theorem not_separate_of_append_eq {a b x y : List Char} (first : '\x22' ∉ x) (second : '\x22' ∉ y)
    (same : x ++ '-' :: slugChars a = y ++ '-' :: slugChars b) :
    ¬ Separate (inlinedChars (elementNamed x) (slugChars a))
      (inlinedChars (elementNamed y) (slugChars b)) := by
  intro separate
  have apart := separate.identifiers
  rw [identifiers_inlined_elementNamed first, identifiers_inlined_elementNamed second,
    same] at apart
  exact apart List.mem_cons_self List.mem_cons_self

/-- A slug that ends with a hyphen and another does not separate all pictures. -/
theorem exists_not_separate_of_suffix {a b : List Char}
    (ends : '-' :: slugChars b <:+ slugChars a) :
    ∃ first second,
      ¬ Separate (inlinedChars first (slugChars a)) (inlinedChars second (slugChars b)) := by
  obtain ⟨w, whole⟩ := ends
  have kept : '\x22' ∉ w := fun mem => by
    have inside : '\x22' ∈ slugChars a := whole ▸ List.mem_append_left _ mem
    exact (closesNothing_slugChars a _ inside).1 (.inl rfl)
  refine ⟨elementNamed ['x'], elementNamed ('x' :: '-' :: w),
    not_separate_of_append_eq (by decide) ?_ ?_⟩
  · simp [kept]
  · rw [← whole]
    rfl

/-- **Pictures of two nodes are separate, whatever they hold, exactly if the slugs of the nodes are
apart.** -/
theorem inlined_separate_iff (a b : String) :
    (∀ first second : String,
      Separate (inlined first (slug a)).toList (inlined second (slug b)).toList) ↔
      SlugsApart a.toList b.toList := by
  simp only [inlined, slug, String.toList_ofList]
  constructor
  · intro separate
    replace separate : ∀ first second, Separate (inlinedChars first (slugChars a.toList))
        (inlinedChars second (slugChars b.toList)) := fun first second => by
      simpa using separate (String.ofList first) (String.ofList second)
    refine ⟨fun same => ?_, fun ends => ?_, fun ends => ?_⟩
    · exact not_separate_of_append_eq (x := ['x']) (y := ['x']) (by decide) (by decide)
        (by rw [same]) (separate _ _)
    · obtain ⟨first, second, shared⟩ := exists_not_separate_of_suffix ends
      exact shared (separate first second)
    · obtain ⟨first, second, shared⟩ := exists_not_separate_of_suffix ends
      exact shared (separate second first).symm
  · intro apart first second
    have names : ∀ (xs ys : List (List Char)), (xs.map (· ++ '-' :: slugChars a.toList)).Disjoint
        (ys.map (· ++ '-' :: slugChars b.toList)) := by
      intro xs ys name inFirst inSecond
      obtain ⟨x, -, rfl⟩ := List.mem_map.1 inFirst
      obtain ⟨y, -, same⟩ := List.mem_map.1 inSecond
      exact apart.append_ne x y same.symm
    constructor <;> simp only [identifiers_inlined, references_inlined, closesNothing_slugChars]
    · exact names _ _
    · exact names _ _
    · exact List.disjoint_symm (names _ _)

/-- A colon and a semicolon make no difference to a slug, so two nodes give one identifier to what
they show. -/
theorem separators_share_identifier :
    "1:2" ≠ "1;2" ∧
      "a-1-2".toList ∈ identifiers (inlined "<svg id=\x22a\x22/>" (slug "1:2")).toList ∧
      "a-1-2".toList ∈ identifiers (inlined "<svg id=\x22a\x22/>" (slug "1;2")).toList := by
  have named : ∀ id : String, slugChars id.toList = "1-2".toList →
      identifiers (inlined "<svg id=\x22a\x22/>" (slug id)).toList = ["a-1-2".toList] := by
    intro id same
    have found := @identifiers_inlined_elementNamed ['a'] (by decide) id.toList
    rw [same] at found
    rw [inlined, slug, String.toList_ofList, String.toList_ofList, same]
    exact found
  refine ⟨by decide, ?_, ?_⟩
  · rw [named "1:2" (by decide)]
    exact List.mem_cons_self
  · rw [named "1;2" (by decide)]
    exact List.mem_cons_self

end SceneMarkup.Picture
