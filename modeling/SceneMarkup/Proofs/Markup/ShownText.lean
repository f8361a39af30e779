import Mathlib.Data.List.DropRight
import SceneMarkup.Proofs.Markup.Entities
import SceneMarkup.Proofs.Markup.Render
import SceneMarkup.Proofs.Picture.Renaming

/-!
# The text that an element shows

Who reads the text of an element takes what stands between its tags, drops the tags in it, and
decodes the rest. A tag of a line break stands for a line feed, and so does the place between two
spans that are paragraphs.

* `content`, `withoutTags`, `shownText`: what such a reader takes from a line;
* `Head.IsPlain`, `isOf_openTag`: heads whose tags end with the first closing bracket behind them;
* `IsPhrase`: text, line breaks, and spans of these with plain heads;
* `letters`, `lettersIn`: the text of a tree and of trees, as the tree has it;
* `withoutTags_renderLine`: the reader takes the text of phrases from the line that they are written
  on;
* `showsOnLine_render`: **an element of phrases is written on one line, at each depth and in each
  dialect, and the line shows the text of the phrases.**
-/

namespace SceneMarkup

open Css (Declaration)
open Naming (IsClassText)
open Text (IsOf isOf_intercalate)

/-! ### Plain heads -/

/-- A head whose tag is a word of small letters, with classes of class characters, declarations that
name nothing, and no picture. -/
structure Head.IsPlain (head : Head) : Prop where
  tag : IsOf Char.isLower head.tag
  classes : ∀ name ∈ head.classes, IsClassText name
  style : Css.AllTame head.style
  picture : head.picture = none

/-- A text is escaped with characters of a kind if all entities are written with them. -/
theorem Escape.isOf_escape {kind : Char → Bool} (entities : ∀ entry ∈ entities, IsOf kind entry.2)
    {text : String} (isOf : IsOf kind text) (dialect : Dialect) :
    IsOf kind (escape dialect text) := by
  refine Text.isOf_ofList.2 fun c mem => ?_
  obtain ⟨d, inside, written⟩ := List.mem_flatMap.1 mem
  cases special : entity? dialect d with
  | some entity =>
    rw [escapeChar_of_some special] at written
    exact entities _ (mem_entities special) c written
  | none =>
    rw [escapeChar_of_none special] at written
    exact List.mem_singleton.1 written ▸ isOf d inside

theorem Escape.isOneLine_escape {text : String} (oneLine : IsOneLine text) (dialect : Dialect) :
    IsOneLine (escape dialect text) := by
  have isOf : IsOf (· != '\n') text := by
    intro c mem
    rw [bne_iff_ne]
    rintro rfl
    exact oneLine mem
  exact (isOf_escape (by decide) isOf dialect).isOneLine rfl

namespace Markup

/-- A character that does not end a tag, or the line that it stands on. -/
def staysInTag (c : Char) : Bool := c != '>' && c != '\n'

theorem staysInTag_of_kind {kind : Char → Bool} (bracket : kind '>' = false)
    (lineEnd : kind '\n' = false) (c : Char) (isKind : kind c = true) : staysInTag c = true := by
  rw [staysInTag, Bool.and_eq_true, bne_iff_ne, bne_iff_ne]
  constructor <;> rintro rfl
  · rw [bracket] at isKind
    cases isKind
  · rw [lineEnd] at isKind
    cases isKind

theorem isOf_ifAny {α : Type} {kind : Char → Bool} {write : List α → String} {items : List α}
    (written : IsOf kind (write items)) : IsOf kind (ifAny write items) := by
  rcases ifAny_cases write items with empty | same
  · rw [empty]
    exact Text.isOf_empty
  · rw [same]
    exact written

theorem isOf_classAttribute (dialect : Dialect) {classes : List String}
    (each : ∀ name ∈ classes, IsClassText name) :
    IsOf staysInTag (classAttribute dialect classes) := by
  have names : IsOf staysInTag (" ".intercalate classes) :=
    isOf_intercalate (by decide) fun name mem => (each name mem).mono (staysInTag_of_kind rfl rfl)
  cases dialect with
  | html => exact (Text.IsOf.append (by decide) names).append (by decide)
  | jsx => exact (Text.IsOf.append (by decide) names).append (by decide)

/-- A value is quoted as it is. -/
theorem isOf_quote {kind : Char → Bool} (mark : kind '"' = true) {value : String}
    (isValue : IsValue value) (isOf : IsOf kind value) : IsOf kind (quote value) := by
  have each : Quoted.escaped.Forall fun c => isValueChar c = false := by decide +kernel
  have same : ∀ c ∈ value.toList, Quoted.encodeChar c = [c] := by
    intro c mem
    refine Quoted.encodeChar_of_not_mem fun escaped => ?_
    have value := isValue c mem
    rw [List.forall_iff_forall_mem.1 each c escaped] at value
    cases value
  refine Text.isOf_ofList.2 fun c mem => ?_
  rcases List.mem_append.1 mem with mem | mem
  · rcases List.mem_cons.1 mem with rfl | mem
    · exact mark
    · obtain ⟨d, inside, written⟩ := List.mem_flatMap.1 mem
      rw [same d inside] at written
      exact List.mem_singleton.1 written ▸ isOf d inside
  · exact List.mem_singleton.1 mem ▸ mark

/-- A value character in capitals does not end a tag. -/
theorem staysInTag_toUpper {c : Char} (isValue : isValueChar c = true) :
    staysInTag c.toUpper = true := by
  rcases Bool.or_eq_true_iff.1 isValue with letter | mark
  · exact Text.forall_isAlphanum (p := fun c => staysInTag c.toUpper = true)
      (by decide +kernel) letter
  · have each : " #%(),-.".toList.Forall fun c => staysInTag c.toUpper = true := by decide
    exact List.forall_iff_forall_mem.1 each c (List.contains_iff_mem.1 mark)

theorem staysInTag_of_isValueChar : ∀ c, isValueChar c = true → staysInTag c = true :=
  staysInTag_of_kind rfl rfl

theorem isOf_jsxEntry {d : Declaration} (tame : d.IsTame) : IsOf staysInTag (jsxEntry d) := by
  have name : IsOf staysInTag (camelCase d.property) := by
    refine Text.isOf_ofList.2 fun c mem => ?_
    obtain ⟨e, inside, rfl | rfl⟩ := mem_camelCaseRest mem
    · exact staysInTag_of_isValueChar c (tame.property.1 c inside)
    · exact staysInTag_toUpper (tame.property.1 e inside)
  exact (name.append (by decide)).append
    (isOf_quote rfl tame.value (tame.value.mono staysInTag_of_isValueChar))

theorem isOf_styleAttribute (dialect : Dialect) {style : List Declaration}
    (tame : Css.AllTame style) :
    IsOf staysInTag (styleAttribute dialect style) := by
  cases dialect with
  | html =>
    have body : IsOf staysInTag ("; ".intercalate (style.map Declaration.text)) := by
      refine isOf_intercalate (by decide) (List.forall_mem_map.2 fun d mem => ?_)
      exact (((tame d mem).property.1.mono staysInTag_of_isValueChar).append (by decide)).append
        ((tame d mem).value.mono staysInTag_of_isValueChar)
    exact (Text.IsOf.append (by decide) (Escape.isOf_escape (by decide) body .html)).append
      (by decide)
  | jsx =>
    have body : IsOf staysInTag (", ".intercalate (style.map jsxEntry)) :=
      isOf_intercalate (by decide) (List.forall_mem_map.2 fun d mem => isOf_jsxEntry (tame d mem))
    exact (Text.IsOf.append (by decide) body).append (by decide)

/-- The tag of a plain head ends with the first closing bracket behind it, on its line. -/
theorem isOf_openTag (dialect : Dialect) {head : Head} (plain : head.IsPlain) :
    IsOf staysInTag (openTag dialect head) := by
  have tag : IsOf staysInTag head.tag := plain.tag.mono (staysInTag_of_kind rfl rfl)
  rw [openTag_eq]
  exact ((Text.IsOf.append (by decide) tag).append
    (isOf_ifAny (isOf_classAttribute dialect plain.classes))).append
    (isOf_ifAny (isOf_styleAttribute dialect plain.style))

/-! ### What is read from a line -/

/-- What stands between the first tag of a line and the last one. -/
def content (line : List Char) : List Char :=
  ((line.dropWhile (· != '>')).tail.rdropWhile (· != '<')).dropLast

/-- A text without its tags: the tag of a line break is a line feed, and so is the end of a span in
front of another one if spans are paragraphs. -/
def withoutTags (apart : Bool) : List Char → List Char
  | [] => []
  | c :: rest =>
    match _taken : if c = '<' then Picture.until? '>' rest else none with
    | some (inside, behind) =>
      (if inside = "br /".toList ∨ apart = true ∧ inside = "/span".toList ∧
        "<span".toList <+: behind then
        ['\n'] else []) ++ withoutTags apart behind
    | none => c :: withoutTags apart rest
termination_by text => text.length
decreasing_by
  · split at _taken
    · have whole := Picture.append_of_until? _taken
      simp only [← whole, List.length_append, List.length_cons]
      omega
    · cases _taken
  · simp

/-- The text that a line shows. -/
def shownText (apart : Bool) (line : String) : String :=
  String.ofList (Escape.decode (withoutTags apart (content line.toList)))

@[simp] theorem withoutTags_nil (apart : Bool) : withoutTags apart [] = [] := by
  rw [withoutTags]

theorem withoutTags_cons {c : Char} (letter : c ≠ '<') (apart : Bool) (rest : List Char) :
    withoutTags apart (c :: rest) = c :: withoutTags apart rest := by
  rw [withoutTags]
  split
  · next h => simp [letter] at h
  · rfl

theorem withoutTags_tag {inside : List Char} (unclosed : '>' ∉ inside) (apart : Bool)
    (behind : List Char) :
    withoutTags apart ('<' :: (inside ++ '>' :: behind)) =
      (if inside = "br /".toList ∨ apart = true ∧ inside = "/span".toList ∧
        "<span".toList <+: behind then
        ['\n'] else []) ++ withoutTags apart behind := by
  have found : Picture.until? '>' (inside ++ '>' :: behind) = some (inside, behind) :=
    Picture.until?_eq_some_iff.2 ⟨unclosed, rfl⟩
  rw [withoutTags]
  split
  · next h =>
    rw [if_pos rfl, found] at h
    cases h
    rfl
  · next h =>
    rw [if_pos rfl, found] at h
    cases h

/-- An escaped text has no tags. -/
theorem withoutTags_escapeChars (dialect : Dialect) (apart : Bool) (text rest : List Char) :
    withoutTags apart (Escape.escapeChars dialect text ++ rest) =
      Escape.escapeChars dialect text ++ withoutTags apart rest := by
  have noBracket : ∀ c ∈ Escape.escapeChars dialect text, c ≠ '<' := by
    rintro c mem rfl
    cases Escape.entity?_eq_none_of_mem mem (by decide)
  generalize Escape.escapeChars dialect text = escaped at noBracket
  induction escaped with
  | nil => rfl
  | cons c escaped ih =>
    obtain ⟨first, others⟩ := List.forall_mem_cons.1 noBracket
    rw [List.cons_append, withoutTags_cons first, ih others, List.cons_append]

theorem dropWhile_bne_append {x : Char} {front : List Char} (absent : x ∉ front)
    (rest : List Char) : (front ++ x :: rest).dropWhile (· != x) = x :: rest := by
  have skipped : ∀ c ∈ front, (c != x) = true := by
    intro c mem
    rw [bne_iff_ne]
    rintro rfl
    exact absent mem
  rw [List.dropWhile_append_of_pos skipped, List.dropWhile_cons_of_neg (by simp)]

/-- What stands behind an opening tag and in front of a closing one. -/
theorem content_between {front back : List Char} (unclosed : '>' ∉ front) (last : '<' ∉ back)
    (inside : List Char) : content (front ++ '>' :: (inside ++ '<' :: back)) = inside := by
  have ends : (inside ++ '<' :: back).rdropWhile (· != '<') = inside ++ ['<'] := by
    have backwards : (inside ++ '<' :: back).reverse =
        back.reverse ++ '<' :: inside.reverse := by simp
    rw [List.rdropWhile, backwards, dropWhile_bne_append (by simpa using last)]
    simp
  rw [content, dropWhile_bne_append unclosed, List.tail_cons, ends, List.dropLast_concat]

/-- Nothing stands in an element that closes itself. -/
theorem content_closed {front : List Char} (unclosed : '>' ∉ front) :
    content (front ++ ['>']) = [] := by
  rw [content, dropWhile_bne_append unclosed]
  rfl

/-! ### Phrases -/

def isElement : Markup → Bool
  | element _ _ => true
  | text _ | lineBreak => false

/-- A text on one line, a line break, or a span of these with a plain head. -/
inductive IsPhrase : Markup → Prop
  | text {content : String} (nonempty : content ≠ "") (oneLine : IsOneLine content) :
    IsPhrase (text content)
  | lineBreak : IsPhrase lineBreak
  | span {head : Head} {children : List Markup} (plain : head.IsPlain) (tag : head.tag = "span")
    (each : ∀ child ∈ children, IsPhrase child) : IsPhrase (element head children)

mutual

/-- The text of a tree, with line feeds between elements next to each other if they are apart. -/
def letters (apart : Bool) : Markup → List Char
  | text content => content.toList
  | lineBreak => ['\n']
  | element _ children => lettersIn apart children

/-- The text of trees one after the other. -/
def lettersIn (apart : Bool) : List Markup → List Char
  | [] => []
  | child :: rest =>
    letters apart child ++
      (if apart && child.isElement && rest.head?.any isElement then ['\n'] else []) ++
      lettersIn apart rest

end

theorem allInline_iff {children : List Markup} :
    allInline children = true ↔ ∀ child ∈ children, child.isInline = true := by
  induction children with
  | nil => simp [allInline]
  | cons child rest ih => simp [allInline, ih]

theorem IsPhrase.isInline {tree : Markup} (phrase : IsPhrase tree) : tree.isInline = true := by
  induction phrase with
  | text => rfl
  | lineBreak => rfl
  | span plain tag each ih => simp [Markup.isInline, tag, allInline_iff.2 ih]

variable {dialect : Dialect} {apart : Bool} {children : List Markup}

/-- Phrases begin with the tag of a span exactly if the first of them is an element. -/
theorem prefix_renderLine_iff (dialect : Dialect) (phrases : ∀ child ∈ children, IsPhrase child)
    {behind : List Char} (other : ¬ "<span".toList <+: behind) :
    "<span".toList <+: (renderLine dialect children).toList ++ behind ↔
      children.head?.any isElement = true := by
  cases children with
  | nil => simpa [renderLine] using other
  | cons child rest =>
    rw [renderLine, String.toList_append, List.append_assoc, List.head?_cons, Option.any_some]
    cases phrases child List.mem_cons_self with
    | @text content nonempty oneLine =>
      rw [renderInline, isElement]
      simp only [Bool.false_eq_true, iff_false]
      rintro ⟨more, same⟩
      exact bracket_ne_escape nonempty _ _ same
    | lineBreak => simp [renderInline, isElement]
    | span plain tag each => simp [renderInline, isElement, openTag_eq, tag]

/-- A tree on a line is read as its text, and its end as a line feed if it is a paragraph in front
of another one. -/
def ReadsText (dialect : Dialect) (apart : Bool) (tree : Markup) : Prop :=
  ∀ behind, withoutTags apart ((renderInline dialect tree).toList ++ behind) =
    Escape.escapeChars dialect (letters apart tree) ++
      ((if apart = true ∧ tree.isElement = true ∧ "<span".toList <+: behind then ['\n'] else []) ++
        withoutTags apart behind)

theorem escapeChars_feed (dialect : Dialect) : Escape.escapeChars dialect ['\n'] = ['\n'] := by
  cases dialect <;> rfl

theorem withoutTags_renderLine_of_each (phrases : ∀ child ∈ children, IsPhrase child)
    (each : ∀ child ∈ children, ReadsText dialect apart child) {behind : List Char}
    (other : ¬ "<span".toList <+: behind) :
    withoutTags apart ((renderLine dialect children).toList ++ behind) =
      Escape.escapeChars dialect (lettersIn apart children) ++ withoutTags apart behind := by
  induction children with
  | nil => rfl
  | cons child rest ih =>
    obtain ⟨first, others⟩ := List.forall_mem_cons.1 each
    obtain ⟨-, otherPhrases⟩ := List.forall_mem_cons.1 phrases
    have follows := prefix_renderLine_iff dialect otherPhrases other
    rw [renderLine, String.toList_append, List.append_assoc, first, ih otherPhrases others,
      lettersIn]
    simp only [follows, Bool.and_eq_true, and_assoc, Escape.escapeChars_append, List.append_assoc]
    split
    · rw [escapeChars_feed]
    · rfl

/-- The tag of a plain span. -/
theorem exists_openTag_eq (dialect : Dialect) {head : Head} (plain : head.IsPlain)
    (tag : head.tag = "span") :
    ∃ inside, (openTag dialect head).toList = '<' :: ("span".toList ++ inside) ∧ '>' ∉ inside := by
  refine ⟨(ifAny (classAttribute dialect) head.classes).toList ++
    (ifAny (styleAttribute dialect) head.style).toList, by simp [openTag_eq, tag], fun closed => ?_⟩
  have inTag : '>' ∈ (openTag dialect head).toList := by
    rw [openTag_eq]
    simp only [String.toList_append, List.append_assoc, List.mem_append] at closed ⊢
    exact .inr (.inr closed)
  exact absurd (isOf_openTag dialect plain _ inTag) (by decide)

/-- Every phrase on a line is read as its text. -/
theorem IsPhrase.readsText {tree : Markup} (phrase : IsPhrase tree) (dialect : Dialect)
    (apart : Bool) :
    ReadsText dialect apart tree := by
  induction phrase with
  | @text content nonempty oneLine =>
    intro behind
    simp only [renderInline, letters, isElement, Escape.escape, String.toList_ofList]
    rw [withoutTags_escapeChars]
    simp
  | lineBreak =>
    intro behind
    have tag : (renderInline dialect .lineBreak).toList ++ behind =
        '<' :: ("br /".toList ++ '>' :: behind) := by
      simp [renderInline]
    rw [tag, withoutTags_tag (by decide), letters, escapeChars_feed]
    simp [isElement]
  | @span head children plain tag each ih =>
    intro behind
    obtain ⟨inside, opens, unclosed⟩ := exists_openTag_eq dialect plain tag
    have closes : (closeTag head).toList ++ behind = '<' :: ("/span".toList ++ '>' :: behind) := by
      simp [closeTag, tag]
    have line : (renderInline dialect (element head children)).toList ++ behind =
        '<' :: ("span".toList ++ inside ++ '>' :: ((renderLine dialect children).toList ++
          ('<' :: ("/span".toList ++ '>' :: behind)))) := by
      rw [← closes, renderInline]
      simp [opens]
    -- What closes the span opens no other one, so the last of its children is no paragraph in front
    -- of one.
    have opensNone : ¬ "<span".toList <+: '<' :: ("/span".toList ++ '>' :: behind) := by simp
    have inner := withoutTags_renderLine_of_each each ih opensNone
    rw [line, withoutTags_tag (by simpa using unclosed), inner, withoutTags_tag (by decide)]
    simp [letters, isElement]

/-- What phrases on a line are read as, in front of what opens no span. -/
theorem withoutTags_renderLine (phrases : ∀ child ∈ children, IsPhrase child) {behind : List Char}
    (other : ¬ "<span".toList <+: behind) :
    withoutTags apart ((renderLine dialect children).toList ++ behind) =
      Escape.escapeChars dialect (lettersIn apart children) ++ withoutTags apart behind :=
  withoutTags_renderLine_of_each phrases
    (fun child mem => (phrases child mem).readsText dialect apart) other

/-! ### Elements of phrases -/

theorem isOneLine_openTag (dialect : Dialect) {head : Head} (plain : head.IsPlain) :
    IsOneLine (openTag dialect head) :=
  (isOf_openTag dialect plain).isOneLine rfl

theorem isOneLine_closeTag {head : Head} (plain : head.IsPlain) : IsOneLine (closeTag head) := by
  have tag : IsOneLine head.tag := plain.tag.isOneLine rfl
  simp only [closeTag, isOneLine_append]
  exact ⟨⟨by decide, tag⟩, by decide⟩

theorem isOneLine_renderLine_of_each
    (each : ∀ child ∈ children, IsOneLine (renderInline dialect child)) :
    IsOneLine (renderLine dialect children) := by
  induction children with
  | nil => exact List.not_mem_nil
  | cons child rest ih =>
    obtain ⟨first, others⟩ := List.forall_mem_cons.1 each
    rw [renderLine, isOneLine_append]
    exact ⟨first, ih others⟩

/-- A phrase is written on one line. -/
theorem IsPhrase.isOneLine {tree : Markup} (phrase : IsPhrase tree) (dialect : Dialect) :
    IsOneLine (renderInline dialect tree) := by
  induction phrase with
  | text _ oneLine =>
    rw [renderInline]
    exact Escape.isOneLine_escape oneLine dialect
  | lineBreak =>
    rw [renderInline]
    decide
  | @span head children plain tag each ih =>
    simp only [renderInline, isOneLine_append]
    exact ⟨⟨⟨isOneLine_openTag dialect plain, by decide⟩, isOneLine_renderLine_of_each ih⟩,
      isOneLine_closeTag plain⟩

theorem isOf_indent (depth : Nat) : IsOf staysInTag (indent depth) := by
  refine Text.isOf_ofList.2 fun c mem => ?_
  rw [List.eq_of_mem_replicate mem]
  rfl

/-- What is written is one line with its end, and the line shows a text. -/
def ShowsOnLine (apart : Bool) (written text : String) : Prop :=
  ∃ line, written = line ++ "\n" ∧ IsOneLine line ∧ shownText apart line = text

/-- **An element of phrases is written on one line, which shows its text.** -/
theorem showsOnLine_render {head : Head} (plain : head.IsPlain)
    (phrases : ∀ child ∈ children, IsPhrase child) (dialect : Dialect) (depth : Nat)
    (apart : Bool) :
    ShowsOnLine apart (render dialect depth (element head children))
      (String.ofList (lettersIn apart children)) := by
  have inTag : IsOf staysInTag (indent depth ++ openTag dialect head) :=
    (isOf_indent depth).append (isOf_openTag dialect plain)
  have unclosed : '>' ∉ (indent depth ++ openTag dialect head).toList := fun mem =>
    absurd (inTag _ mem) (by decide)
  have front : IsOneLine (indent depth ++ openTag dialect head) := inTag.isOneLine rfl
  rw [render_element plain.picture, afterTag]
  split
  · next closed =>
    obtain rfl : children = [] := List.isEmpty_iff.1 closed.1
    refine ⟨indent depth ++ openTag dialect head ++ " />", by simp [String.append_assoc],
      isOneLine_append.2 ⟨front, by decide⟩, ?_⟩
    have line : (indent depth ++ openTag dialect head ++ " />").toList =
        (indent depth ++ openTag dialect head).toList ++ " /".toList ++ ['>'] := by simp
    rw [shownText, line, content_closed (by simpa using unclosed), withoutTags_nil,
      Escape.decode_nil, lettersIn]
  · rw [if_pos (allInline_iff.2 fun child mem => (phrases child mem).isInline)]
    refine ⟨indent depth ++ openTag dialect head ++ ">" ++
      renderLine dialect children ++ closeTag head,
      by simp [String.append_assoc], ?_, ?_⟩
    · have inner : IsOneLine (renderLine dialect children) :=
        isOneLine_renderLine_of_each fun child mem => (phrases child mem).isOneLine dialect
      simp only [isOneLine_append] at front ⊢
      exact ⟨⟨⟨front, by decide⟩, inner⟩, isOneLine_closeTag plain⟩
    · have line : (indent depth ++ openTag dialect head ++ ">" ++ renderLine dialect children ++
          closeTag head).toList = (indent depth ++ openTag dialect head).toList ++
            '>' :: ((renderLine dialect children).toList ++
              '<' :: ('/' :: head.tag.toList ++ ['>'])) := by
        simp [closeTag]
      have tag : '<' ∉ head.tag.toList := fun mem => absurd (plain.tag _ mem) (by decide)
      have nothing : ¬ "<span".toList <+: [] := by simp
      have read : withoutTags apart ((renderLine dialect children).toList ++ []) =
          Escape.escapeChars dialect (lettersIn apart children) ++ withoutTags apart [] :=
        withoutTags_renderLine phrases nothing
      rw [List.append_nil, withoutTags_nil, List.append_nil] at read
      rw [shownText, line, content_between unclosed (by simpa using tag), read,
        Escape.decode_escapeChars]

/-- Two paragraphs of which one is empty, and a line break. -/
example :
    shownText true "  <p><span class=\x22room\x22>&lt;<br />b</span><span></span></p>" =
      "<\nb\n" := by
  decide +kernel

end Markup

end SceneMarkup
