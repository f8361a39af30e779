import SceneMarkup.Proofs.Appearance.Values
import SceneMarkup.Proofs.Emission.Phrases
import SceneMarkup.Proofs.Text.Pieces
import SceneMarkup.Proofs.Typography.Content

/-!
# Texts arrive unchanged

The letters of a text node are written between tags and as entities, its line ends as tags, and its
paragraphs as spans. Nothing of it is lost on the way, and nothing is added.

* `wording`: the letters of a text node;
* `isPhrase_textContent`: the content of a text node are phrases;
* `lettersIn_textContent`: they have the letters of the text node;
* `text_arrives`: **in every element, at each depth and in each dialect, a text node is written on
  one line that shows its letters**;
* `spoiled_class_is_read`: not so in a sheet that remembers a class which is no identifier for its
  paragraphs.
-/

namespace SceneMarkup.Typography

open Css (AllTame)
open Naming (IsIdentifier)
open Scene (Segment TextStyle)
open Sketch (IsPhrase lettersIn)
open Text (joined joined_cons_ne_nil)

variable {options : Options}

/-- The letters of a text node: those of its runs, if it has any. -/
def wording (text : TextStyle) : List Char :=
  if text.segments.isEmpty then text.characters.toList
  else text.segments.flatMap fun segment => segment.characters.toList

/-- The content of a text node are paragraphs with room between them. -/
def areApart (text : TextStyle) : Bool := text.segments.isEmpty && hasParagraphs text

theorem brokenLines_cons (line : List Char) {rest : List (List Char)} (more : rest ≠ []) :
    brokenLines (line :: rest) = textSketch line ++ .lineBreak :: brokenLines rest := by
  cases rest with
  | nil => exact absurd rfl more
  | cons => rfl

theorem paragraphs_cons (request : Request) (paragraph : List Char) {rest : List (List Char)}
    (more : rest ≠ []) :
    paragraphs request (paragraph :: rest) =
      paragraphSketch [request] paragraph :: paragraphs request rest := by
  cases rest with
  | nil => exact absurd rfl more
  | cons => rfl

/-! ### Phrases -/

theorem isOf_span : Text.IsOf Char.isLower "span" := by
  decide

theorem isPhrase_textSketch {line : List Char} (oneLine : '\n' ∉ line) :
    ∀ sketch ∈ textSketch line, IsPhrase sketch := by
  intro sketch mem
  unfold textSketch at mem
  split at mem
  · cases mem
  · next nonempty =>
    rw [List.mem_singleton.1 mem]
    refine .text ?_ ?_
    · intro empty
      exact nonempty (List.isEmpty_iff.2 (by simpa using congrArg String.toList empty))
    · rwa [IsOneLine, String.toList_ofList]

theorem isPhrase_brokenLines {broken : List (List Char)} (oneLine : ∀ line ∈ broken, '\n' ∉ line) :
    ∀ sketch ∈ brokenLines broken, IsPhrase sketch := by
  induction broken using brokenLines.induct with
  | case1 => intro sketch mem; cases mem
  | case2 line => exact isPhrase_textSketch (oneLine line List.mem_cons_self)
  | case3 line rest more ih =>
    obtain ⟨first, others⟩ := List.forall_mem_cons.1 oneLine
    rw [brokenLines_cons line more, List.forall_mem_append, List.forall_mem_cons]
    exact ⟨isPhrase_textSketch first, .lineBreak, ih others⟩

theorem oneLine_of_mem_linesOf {text : String} : ∀ line ∈ linesOf text, '\n' ∉ line := by
  intro line mem inside
  have kept := (Text.mem_of_mem_pieces mem inside).2
  cases kept

theorem isPhrase_lines (text : String) : ∀ sketch ∈ lines text, IsPhrase sketch :=
  isPhrase_brokenLines oneLine_of_mem_linesOf

theorem isPhrase_segmentSketch (placeholder : IsValue options.placeholderColor)
    (segment : Segment) :
    ∀ sketch ∈ segmentSketch options segment, IsPhrase sketch := by
  intro sketch mem
  unfold segmentSketch at mem
  simp only at mem
  split at mem
  · exact isPhrase_lines _ sketch mem
  · rw [List.mem_singleton.1 mem]
    exact .span ⟨isOf_span, fun _ asked => (by cases asked),
      Appearance.allTame_textPaint placeholder _, rfl⟩ rfl
      (isPhrase_lines _)

theorem isPhrase_paragraphSketch {extra : List Request}
    (bases : ∀ request ∈ extra, IsIdentifier request.base) {paragraph : List Char}
    (oneLine : '\n' ∉ paragraph) : IsPhrase (paragraphSketch extra paragraph) :=
  .span ⟨isOf_span, bases, Css.allTame_nil, rfl⟩ rfl (isPhrase_textSketch oneLine)

theorem isPhrase_paragraphs {request : Request} (base : IsIdentifier request.base)
    {parts : List (List Char)} (oneLine : ∀ part ∈ parts, '\n' ∉ part) :
    ∀ sketch ∈ paragraphs request parts, IsPhrase sketch := by
  induction parts using paragraphs.induct with
  | case1 => intro sketch mem; cases mem
  | case2 last =>
    exact List.forall_mem_singleton.2
      (isPhrase_paragraphSketch (fun _ mem => by cases mem) (oneLine last List.mem_cons_self))
  | case3 paragraph rest more ih =>
    obtain ⟨first, others⟩ := List.forall_mem_cons.1 oneLine
    rw [paragraphs_cons request paragraph more]
    exact List.forall_mem_cons.2
      ⟨isPhrase_paragraphSketch (List.forall_mem_singleton.2 base) first, ih others⟩

/-- The content of a text node are phrases. -/
theorem isPhrase_textContent (placeholder : IsValue options.placeholderColor) (text : TextStyle) :
    ∀ sketch ∈ textContent options text, IsPhrase sketch := by
  unfold textContent
  split
  · exact List.forall_mem_flatMap.2 fun segment _ => isPhrase_segmentSketch placeholder segment
  · split
    · exact isPhrase_paragraphs (Layout.IsUtility.paragraph _).isIdentifier oneLine_of_mem_linesOf
    · exact isPhrase_lines _

/-! ### Letters -/

/-- Where sketches need no line feeds between them, their text is that of each of them. -/
theorem lettersIn_eq_flatMap {apart : Bool} {sketches : List Sketch}
    (noElements : ∀ sketch ∈ sketches, apart = true → sketch.isElement = false) :
    lettersIn apart sketches = sketches.flatMap (Sketch.letters apart) := by
  induction sketches with
  | nil => rfl
  | cons sketch rest ih =>
    obtain ⟨first, others⟩ := List.forall_mem_cons.1 noElements
    have noFeed : ¬ (apart && sketch.isElement && rest.head?.any Sketch.isElement) = true := by
      rintro feed
      simp only [Bool.and_eq_true] at feed
      rw [first feed.1.1] at feed
      cases feed.1.2
    rw [lettersIn, if_neg noFeed, List.append_nil, ih others, List.flatMap_cons]

theorem flatMap_letters_textSketch (apart : Bool) (line : List Char) :
    (textSketch line).flatMap (Sketch.letters apart) = line := by
  unfold textSketch
  split
  · next empty => exact (List.isEmpty_iff.1 empty).symm
  · simp [Sketch.letters]

theorem flatMap_letters_brokenLines (apart : Bool) (broken : List (List Char)) :
    (brokenLines broken).flatMap (Sketch.letters apart) = joined '\n' broken := by
  induction broken using brokenLines.induct with
  | case1 => rfl
  | case2 line => exact flatMap_letters_textSketch apart line
  | case3 line rest more ih =>
    rw [brokenLines_cons line more, List.flatMap_append, List.flatMap_cons,
      flatMap_letters_textSketch, ih, joined_cons_ne_nil '\n' line more]
    rfl

/-- Lines with breaks between them have the letters of the text. -/
theorem flatMap_letters_lines (apart : Bool) (text : String) :
    (lines text).flatMap (Sketch.letters apart) = text.toList := by
  rw [lines, flatMap_letters_brokenLines, linesOf, Text.joined_pieces]

theorem lettersIn_of_isLetters (apart : Bool) {sketches : List Sketch}
    (letters : ∀ sketch ∈ sketches, sketch.IsLetters) :
    lettersIn apart sketches = sketches.flatMap (Sketch.letters apart) := by
  refine lettersIn_eq_flatMap fun sketch mem _ => ?_
  cases letters sketch mem <;> rfl

theorem lettersIn_lines (apart : Bool) (text : String) :
    lettersIn apart (lines text) = text.toList := by
  rw [lettersIn_of_isLetters apart (isLetters_lines text), flatMap_letters_lines]

/-- A run has its letters, whether it has a paint or not. -/
theorem flatMap_letters_segmentSketch (segment : Segment) :
    (segmentSketch options segment).flatMap (Sketch.letters false) = segment.characters.toList := by
  unfold segmentSketch
  simp only
  split
  · exact flatMap_letters_lines false segment.characters
  · simp [Sketch.letters, lettersIn_lines]

/-- Paragraphs have their letters, with a line feed between each two. -/
theorem lettersIn_paragraphs (request : Request) (parts : List (List Char)) :
    lettersIn true (paragraphs request parts) = joined '\n' parts := by
  have one : ∀ extra paragraph, (paragraphSketch extra paragraph).letters true = paragraph := by
    intro extra paragraph
    rw [paragraphSketch, Sketch.letters,
      lettersIn_of_isLetters true (isLetters_textSketch paragraph), flatMap_letters_textSketch]
  induction parts using paragraphs.induct with
  | case1 => rfl
  | case2 last => simp [paragraphs, lettersIn, one, joined]
  | case3 paragraph rest more ih =>
    have next : (paragraphs request rest).head?.any Sketch.isElement = true := by
      rcases rest with _ | ⟨second, _ | ⟨third, rest⟩⟩
      · exact absurd rfl more
      · rfl
      · rfl
    rw [paragraphs_cons request paragraph more, lettersIn, one, next, ih,
      joined_cons_ne_nil '\n' paragraph more]
    simp [paragraphSketch, Sketch.isElement]

/-- The content of a text node has its letters. -/
theorem lettersIn_textContent (options : Options) (text : TextStyle) :
    lettersIn (areApart text) (textContent options text) = wording text := by
  unfold textContent wording areApart
  cases runs : text.segments.isEmpty with
  | false =>
    simp only [Bool.not_false, if_true, Bool.false_and, Bool.false_eq_true, if_false]
    rw [lettersIn_eq_flatMap (fun _ _ impossible => by cases impossible), List.flatMap_assoc]
    simp only [flatMap_letters_segmentSketch]
  | true =>
    simp only [Bool.not_true, Bool.false_eq_true, if_false, Bool.true_and, if_true]
    split
    · next paragraphs =>
      rw [paragraphs, lettersIn_paragraphs, linesOf, Text.joined_pieces]
    · exact lettersIn_lines _ _

/-! ### The main statement -/

/-- A text node is named, no plain name is spoiled, and its element is written on one line that
shows its letters. -/
def Arrives (options : Options) (sheet : Sheet) (text : TextStyle) (head : Head) : Prop :=
  ∃ children after, Sketch.nameAll sheet (textContent options text) = (.ok children, after) ∧
    (∀ request, sheet.registry.NamesPlainly request → after.registry.NamesPlainly request) ∧
      ∀ dialect depth,
        Markup.ShowsOnLine (areApart text) (Markup.render dialect depth (.element head children))
        (String.ofList (wording text))

/-- **Texts arrive unchanged.** Let the color that stands for pictures be a value, and let the class
that a sheet remembers for the room between the paragraphs, if it remembers one, be an identifier,
as in every sheet in which only texts have asked for that. Then the content of the text node gets
its names, and every element with a plain head around it is written, at each depth and in each
dialect, on one line. Who takes the content of that line, reads line feeds from the tags of line
breaks and from between paragraphs, drops the other tags and decodes the entities gets the letters
of the text node. -/
theorem text_arrives (placeholder : IsValue options.placeholderColor) (text : TextStyle)
    {sheet : Sheet} (plain : sheet.registry.NamesPlainly (paragraphRequest text.paragraphSpacing))
    {head : Head} (plainHead : head.IsPlain) : Arrives options sheet text head := by
  have names : ∀ request ∈ Sketch.requestsIn (textContent options text),
      sheet.registry.NamesPlainly request := by
    intro request asked
    rw [Sketch.requestsIn_eq_flatMap] at asked
    obtain ⟨sketch, mem, asked⟩ := List.mem_flatMap.1 asked
    obtain rfl := (isContent_textContent options text sketch mem).requests request asked
    exact plain
  obtain ⟨children, after, named, keeps, phrases, letters⟩ :=
    Sketch.nameAll_phrases (isPhrase_textContent placeholder text) names
  refine ⟨children, after, named, keeps, fun dialect depth => ?_⟩
  rw [← lettersIn_textContent options text, ← letters (areApart text)]
  exact Markup.showsOnLine_render plainHead phrases dialect depth (areApart text)

/-- Three paragraphs with room between them, of which one is empty and one looks escaped. -/
def spacedText : TextStyle := { characters := "a < b\n\n&lt;\n", paragraphSpacing := 8 }

/-- A text that was emitted before, with paragraphs that are as far from each other. -/
def spacedNode : Scene.Node :=
  .mk { id := "3:1", kind := .text { characters := "x\ny", paragraphSpacing := 8 } } []

/-- Calls after which a class is named for no identifier, and the name of the paragraphs is
taken. -/
def oddCalls : List Call := [.intern (.own "a>b" []), .name "paragraph-8"]

theorem spacedText_arrives :
    areApart spacedText = true ∧
      Arrives {} (Emission.sheetAfter {} {} { registry := (Registry.run {} oddCalls).2 }
        [spacedNode]) spacedText
        { tag := "p", classes := ["text-12"] } := by
  have called :
      (Registry.run {} oddCalls).2.NamesPlainly (paragraphRequest spacedText.paragraphSpacing) := by
    refine (Registry.namesPlainly_empty _).run fun other mem alike => ?_
    obtain rfl : other = .own "a>b" [] := by simpa [oddCalls] using mem
    cases alike
  exact ⟨by decide +kernel,
    text_arrives (by decide) spacedText (Emission.namesPlainly_sheetAfter called [spacedNode])
      ⟨by decide, by decide, by decide, rfl⟩⟩

/-- A sheet that remembers a class which is no identifier for the room between paragraphs. -/
def spoiledSheet : Sheet :=
  { registry := (Registry.run {} [.intern (.utility "paragraph-8" "a\">b" [])]).2 }

/-- Two paragraphs with that room between them. -/
def twoParagraphs : TextStyle := { characters := "x\ny", paragraphSpacing := 8 }

/-- The line on which they are written. -/
def spoiledLine : String := "<p><span class=\"a\">b\">x</span><span>y</span></p>"

/-- **A class that is no identifier spoils a text.** Classes are written as they are, so the tag of
the first paragraph ends inside of its class, and what is left of the class is read as letters. -/
theorem spoiled_class_is_read :
    (∃ children after,
      Sketch.nameAll spoiledSheet (textContent {} twoParagraphs) = (.ok children, after) ∧
        Markup.render .html 0 (.element { tag := "p" } children) = spoiledLine ++ "\n") ∧
      Markup.shownText (areApart twoParagraphs) spoiledLine = "b\">x\ny" ∧
      ¬ Arrives {} spoiledSheet twoParagraphs { tag := "p" } := by
  have written : (Sketch.nameAll spoiledSheet (textContent {} twoParagraphs)).1.map
      (fun children => Markup.render .html 0 (.element { tag := "p" } children)) =
        .ok (spoiledLine ++ "\n") := by
    decide +kernel
  have read : Markup.shownText (areApart twoParagraphs) spoiledLine = "b\">x\ny" := by
    decide +kernel
  refine ⟨?_, read, ?_⟩
  · cases named : Sketch.nameAll spoiledSheet (textContent {} twoParagraphs) with
    | mk outcome after =>
      rw [named] at written
      cases outcome with
      | error => cases written
      | ok children => exact ⟨children, after, rfl, Except.ok.inj written⟩
  · rintro ⟨children, after, named, -, shows⟩
    rw [named] at written
    obtain ⟨line, whole, -, shown⟩ := shows .html 0
    obtain rfl : spoiledLine = line :=
      (String.append_left_inj _).1 ((Except.ok.inj written).symm.trans whole)
    rw [read] at shown
    exact absurd shown (by decide +kernel)

end SceneMarkup.Typography
