import Mathlib.Data.List.DropRight
import SceneMarkup.Proofs.Picture.Identifiers

/-!
# Inlining puts suffixes behind names, and nowhere else

A picture is scanned step by step. Each step tries the tokens with a name, and passes over other
text if there is none. A picture that was inlined is scanned as it was before, so inlining it again
only makes its names longer.

* `step?`: one step of a scan, which may find nothing;
* `Scans`: the steps of a scan, up to the end of the text or to where a step finds nothing;
* `scans_iff`: the second never comes about, and what is found are the tokens of the text;
* `Suffixed`, `suffixed_written`: a text and the same text with a suffix behind every name;
* `body_inlinedChars`: an inlined picture is shown as it is, unless it begins like a declaration;
* `inlining_keeps_places`: **all of this holds of every inlined picture, and a picture that is
  inlined twice is inlined once, with both suffixes**.
-/

namespace SceneMarkup.Picture

/-! ### Steps -/

/-- Other text at the beginning of a text. -/
def passed? : List Char → Option (Token × List Char)
  | [] => none
  | c :: rest => some (other c rest)

/-- What one step of a scan takes from a text, and what it leaves: a token with a name, or other
text. -/
def step? (text : List Char) : Option (Token × List Char) := (named? text).or (passed? text)

theorem step?_cons (c : Char) (rest : List Char) : step? (c :: rest) = some (next c rest) := by
  rw [step?, next_eq, passed?]
  cases named? (c :: rest) <;> rfl

/-- A step takes one character at least, and leaves the rest of the text. -/
theorem step?_of_ne_nil {text : List Char} (nonempty : text ≠ []) :
    ∃ token left, step? text = some (token, left) ∧ token.chars ++ left = text ∧
      left.length < text.length := by
  obtain ⟨c, rest, rfl⟩ := List.exists_cons_of_ne_nil nonempty
  refine ⟨_, _, step?_cons c rest, (chars_next c rest).1, ?_⟩
  rw [List.length_cons]
  exact Nat.lt_succ_of_le (length_next c rest)

/-- What a step takes is the first token of the text. -/
theorem tokens_of_step? {text rest : List Char} {token : Token}
    (taken : step? text = some (token, rest)) :
    tokens text = token :: tokens rest := by
  cases text with
  | nil => cases taken
  | cons c text =>
    have first : next c text = (token, rest) :=
      Option.some.inj ((step?_cons c text).symm.trans taken)
    rw [tokens, first]

/-- A scan takes tokens from a text, up to its end or until a step finds nothing. -/
inductive Scans : (text : List Char) → (items : List Token) → (left : List Char) → Prop
  | done : Scans [] [] []
  | step {text rest left : List Char} {token : Token} {items : List Token}
    (taken : step? text = some (token, rest)) (behind : Scans rest items left) :
    Scans text (token :: items) left
  | stuck {text : List Char} (nonempty : text ≠ []) (nothing : step? text = none) :
    Scans text [] text

/-- No scan gets stuck, and what it takes are the tokens of the text. -/
theorem scans_iff {text left : List Char} {items : List Token} :
    Scans text items left ↔ items = tokens text ∧ left = [] := by
  constructor
  · intro scan
    induction scan with
    | done => exact ⟨by rw [tokens], rfl⟩
    | step taken _ ih =>
      obtain ⟨rfl, rfl⟩ := ih
      exact ⟨(tokens_of_step? taken).symm, rfl⟩
    | stuck nonempty nothing =>
      obtain ⟨token, left, found, -⟩ := step?_of_ne_nil nonempty
      rw [found] at nothing
      cases nothing
  · rintro ⟨rfl, rfl⟩
    fun_induction tokens text with
    | case1 => exact .done
    | case2 c rest ih => exact .step (step?_cons c rest) ih

/-! ### Suffixes behind names -/

/-- No token with a name begins inside of other text. -/
theorem not_beginsNamed_inside {c : Char} {rest run : List Char}
    (unnamed : ¬ BeginsNamed (c :: rest)) (taken : (other c rest).1 = .other run) {back : List Char}
    (inside : back <:+ run) (nonempty : back ≠ []) : ¬ BeginsNamed (back ++ (other c rest).2) := by
  obtain ⟨solid, shape, kept⟩ : ∃ solid, run = c :: solid ∧ ∀ x ∈ solid, mayBegin x = false := by
    rw [other] at taken
    split at taken
    · exact ⟨[], (Token.other.inj taken).symm, fun x mem => by cases mem⟩
    · refine ⟨_, (Token.other.inj taken).symm, fun x mem => ?_⟩
      simpa using List.mem_takeWhile_imp mem
  rw [shape] at inside taken
  rcases List.suffix_cons_iff.1 inside with rfl | later
  · -- All of the run: this is where the scan stands.
    have whole : c :: solid ++ (other c rest).2 = c :: rest := by
      rw [← (chars_other c rest).1, taken, Token.chars_other]
    rwa [whole]
  · obtain ⟨x, back, rfl⟩ := List.exists_cons_of_ne_nil nonempty
    intro begins
    have first := begins.mayBegin
    rw [kept x (later.subset List.mem_cons_self)] at first
    cases first

/-- A text that is made up of tokens, and the same text with a hyphen and a suffix behind the name
of each. Other text is copied, and no token with a name begins inside of it. -/
inductive Suffixed (suffix : List Char) : (items : List Token) → (text more : List Char) → Prop
  | nil : Suffixed suffix [] [] []
  | named {opening : List Char} {closer : Char} {make : List Char → Token}
    {name text more : List Char} {items : List Token} (form : Form opening closer make)
    (absent : closer ∉ name) (behind : Suffixed suffix items text more) :
    Suffixed suffix (make name :: items) (opening ++ name ++ closer :: text)
      (opening ++ name ++ '-' :: suffix ++ closer :: more)
  | other (run : List Char) {text more : List Char} {items : List Token}
    (unnamed : ∀ back, back <:+ run → back ≠ [] → ¬ BeginsNamed (back ++ text))
    (behind : Suffixed suffix items text more) :
    Suffixed suffix (.other run :: items) (run ++ text) (run ++ more)

/-- The renamed text is the text with the suffix behind every name, and nothing else. -/
theorem suffixed_written (suffix text : List Char) :
    Suffixed suffix (tokens text) text (written suffix (tokens text)) := by
  fun_induction tokens text with
  | case1 => exact .nil
  | case2 c rest ih =>
    rw [written, List.flatMap_cons, ← written]
    rcases next_cases c rest with ⟨opening, closer, make, name, left, form, absent, whole, found⟩ |
        ⟨unnamed, found⟩
    · rw [found] at ih ⊢
      have step := Suffixed.named form absent ih
      rw [form.rename_make, form.chars_make, whole]
      simpa using step
    · rw [found] at ih ⊢
      obtain ⟨run, token⟩ : ∃ run, (other c rest).1 = .other run := by
        rw [other]
        split <;> exact ⟨_, rfl⟩
      have step := Suffixed.other run
        (fun back inside nonempty => not_beginsNamed_inside unnamed token inside nonempty) ih
      rw [← (chars_other c rest).1, token]
      simpa [Token.rename] using step

/-! ### Inlining an inlined picture -/

theorem rename_rename (a b : List Char) (token : Token) :
    (token.rename a).rename b = token.rename (a ++ '-' :: b) := by
  cases token <;> simp [Token.rename]

/-- What is put in front of a character leaves the end of a text alone. -/
theorem Extended.getLast?_eq {suffix text more : List Char} (h : Extended suffix text more) :
    more.getLast? = text.getLast? := by
  induction h with
  | nil => rfl
  | cons c _ ih => rw [List.getLast?_cons, List.getLast?_cons, ih]
  | insert c _ ih => rw [List.getLast?_append_cons, List.getLast?_cons, List.getLast?_cons, ih]

/-- A text without a run at its beginning does not begin like the run. -/
theorem eq_false_of_head?_dropWhile {p : Char → Bool} {text : List Char} :
    ∀ c ∈ (text.dropWhile p).head?, p c = false := by
  intro c first
  have stops := List.head?_dropWhile_not p text
  rwa [Option.mem_def.1 first] at stops

theorem isBlank_eq_false_of_head?_body {text : List Char} :
    ∀ c ∈ (body text).head?, isBlank c = false := by
  intro c first
  obtain ⟨rest, shape⟩ : body text <+: withoutProlog text := List.rdropWhile_prefix _ _
  have begins : c ∈ (withoutProlog text).head? := by
    rw [← shape, List.head?_append, Option.mem_def.1 first]
    rfl
  exact eq_false_of_head?_dropWhile c begins

theorem isWhiteSpace_eq_false_of_getLast?_body {text : List Char} :
    ∀ c ∈ (body text).getLast?, Unicode.isWhiteSpace c = false := by
  rw [body, Unicode.trimEnd, List.getLast?_reverse]
  exact eq_false_of_head?_dropWhile

/-- What begins with no blank and not like a declaration, and ends with no white space, is shown as
it is. -/
theorem body_eq_self {text : List Char} (begins : ∀ c ∈ text.head?, isBlank c = false)
    (ends : ∀ c ∈ text.getLast?, Unicode.isWhiteSpace c = false)
    (declaration : ¬ "<?xml".toList <+: text) (doctype : ¬ "<!DOCTYPE".toList <+: text) :
    body text = text := by
  rw [body, withoutProlog_eq_self begins declaration doctype]
  refine List.rdropWhile_eq_self_iff.2 fun nonempty => ?_
  rw [ends _ (List.getLast?_eq_getLast_of_ne_nil nonempty)]
  exact Bool.false_ne_true

/-- An inlined picture begins like a declaration only if what is shown of the picture does. -/
theorem Extended.prefix_of_prefix {suffix text more opening : List Char}
    (h : Extended suffix text more) (noHyphen : '-' ∉ opening) (begins : opening <+: more) :
    opening <+: text := by
  obtain ⟨rest, rfl⟩ := begins
  obtain ⟨left, rfl, -⟩ := h.of_append noHyphen
  exact List.prefix_append opening left

/-- An inlined picture is shown as it is, unless what was shown begins like a declaration. -/
theorem body_inlinedChars {text : List Char} (suffix : List Char)
    (declaration : ¬ "<?xml".toList <+: body text) (doctype : ¬ "<!DOCTYPE".toList <+: body text) :
    body (inlinedChars text suffix) = inlinedChars text suffix := by
  have extended : Extended suffix (body text) (inlinedChars text suffix) :=
    extended_written (body text)
  refine body_eq_self ?_ ?_ ?_ ?_
  · rw [show (inlinedChars text suffix).head? = (body text).head? from
      head?_written suffix (body text)]
    exact isBlank_eq_false_of_head?_body
  · rw [extended.getLast?_eq]
    exact isWhiteSpace_eq_false_of_getLast?_body
  · exact fun begins => declaration (extended.prefix_of_prefix (by decide) begins)
  · exact fun begins => doctype (extended.prefix_of_prefix (by decide) begins)

/-- Inlining an inlined picture makes its names longer. -/
theorem inlinedChars_inlinedChars {text a b : List Char} (plain : ClosesNothing a)
    (declaration : ¬ "<?xml".toList <+: body text) (doctype : ¬ "<!DOCTYPE".toList <+: body text) :
    inlinedChars (inlinedChars text a) b = inlinedChars text (a ++ '-' :: b) := by
  have again : tokens (inlinedChars text a) = (tokens (body text)).map (Token.rename a) :=
    tokens_written plain (body text)
  rw [inlinedChars, body_inlinedChars a declaration doctype, again, List.flatMap_map, inlinedChars]
  simp only [rename_rename]

/-! ### Pictures -/

/-- How a picture is inlined: by a scan that finds its names and puts the suffix behind each of
them, so that another scan finds the longer names in the same places. -/
structure InlinesInPlace (picture suffix : String) : Prop where
  /-- Every step takes one character at least. -/
  steps : ∀ text : List Char, text ≠ [] → ∃ token left, step? text = some (token, left) ∧
    token.chars ++ left = text ∧ left.length < text.length
  /-- The scan does not get stuck, and takes the tokens. -/
  scanned : ∀ items left, Scans (body picture.toList) items left ↔
    items = tokens (body picture.toList) ∧ left = []
  /-- The suffix is put behind each name, and nothing else changes. -/
  suffixed : Suffixed suffix.toList (tokens (body picture.toList)) (body picture.toList)
    (inlined picture suffix).toList
  /-- The same tokens are found again, under their new names. -/
  scannedAgain : tokens (inlined picture suffix).toList =
    (tokens (body picture.toList)).map (Token.rename suffix.toList)

theorem toList_inlined (picture suffix : String) :
    (inlined picture suffix).toList = inlinedChars picture.toList suffix.toList :=
  String.toList_ofList

/-- **Inlining keeps every place.** A picture is scanned without getting stuck, the suffix is put
behind each of its names and nowhere else, and the inlined picture is scanned into the same tokens
under their new names. So a picture that does not begin like a declaration again is inlined twice by
being inlined with both suffixes. -/
theorem inlining_keeps_places {a b : String} (plain : ∀ c ∈ a.toList, Naming.isClassChar c = true)
    (picture : String) :
    InlinesInPlace picture a ∧
      (¬ "<?xml".toList <+: body picture.toList → ¬ "<!DOCTYPE".toList <+: body picture.toList →
        inlined (inlined picture a) b = inlined picture (a ++ "-" ++ b)) := by
  have closesNothing := closesNothing_of_isClassChar plain
  refine ⟨⟨fun _ => step?_of_ne_nil, fun _ _ => scans_iff, ?_, ?_⟩, fun declaration doctype => ?_⟩
  · rw [toList_inlined]
    exact suffixed_written a.toList (body picture.toList)
  · rw [toList_inlined]
    exact tokens_written closesNothing (body picture.toList)
  · have both : (a ++ "-" ++ b).toList = a.toList ++ '-' :: b.toList := by simp
    rw [inlined, toList_inlined, inlinedChars_inlinedChars closesNothing declaration doctype,
      ← both]
    rfl

/-- A picture with a declaration, a name, references of all forms, and an address that is not
closed. -/
def brokenPicture : String :=
  "<?xml version='1.0'?>\n<svg><g id=\x22u\x22/><use xlink:href='#u' href=\x22#v\x22/>" ++
    "<path fill=\x22url(#u)\x22 mask=\x22url(#broken\n"

theorem inlining_keeps_places_of_brokenPicture :
    (∀ c ∈ "1-2".toList, Naming.isClassChar c = true) ∧
      ¬ "<?xml".toList <+: body brokenPicture.toList ∧
      ¬ "<!DOCTYPE".toList <+: body brokenPicture.toList ∧ InlinesInPlace brokenPicture "1-2" ∧
      inlined (inlined brokenPicture "1-2") "3" = inlined brokenPicture "1-2-3" := by
  have plain : ∀ c ∈ "1-2".toList, Naming.isClassChar c = true :=
    List.all_eq_true.1 (show "1-2".toList.all Naming.isClassChar = true by decide)
  have declaration : ¬ "<?xml".toList <+: body brokenPicture.toList := by decide +kernel
  have doctype : ¬ "<!DOCTYPE".toList <+: body brokenPicture.toList := by decide +kernel
  obtain ⟨inPlace, twice⟩ := inlining_keeps_places (b := "3") plain brokenPicture
  exact ⟨plain, declaration, doctype, inPlace, twice declaration doctype⟩

end SceneMarkup.Picture
