import SceneMarkup.Markup.Render
import SceneMarkup.Proofs.Css.Lines
import SceneMarkup.Proofs.Markup.Attribute

/-!
# Rendering loses nothing

A rendered tree tells the tree, if no text of it is empty, broken or next to another one, and if its
heads can be read back.

* `IsReadable`: such trees, and `Apart`: siblings that are not both texts;
* `readsBack_renderLine`: trees on one line read back in front of a closing tag;
* `Content`: an element closes itself, or its content stands on its line or on lines of its own;
* `readsBack_render`: trees on lines of their own read back, whatever follows;
* `render_eq_iff`: so two trees are rendered alike only if they are the same.
-/

namespace SceneMarkup.Markup

open Text (Anything ReadsBack readsBack_flatMap)

def isText : Markup → Bool
  | text _ => true
  | element _ _ | lineBreak => false

/-- Siblings that are not both texts. -/
def Apart (a b : Markup) : Prop := a.isText = false ∨ b.isText = false

/-- A tree without pictures whose heads can be read back, and whose texts are not empty, on one
line, and not next to each other. -/
inductive IsReadable : Markup → Prop
  | text {content : String} (nonempty : content ≠ "") (oneLine : IsOneLine content) :
    IsReadable (text content)
  | lineBreak : IsReadable lineBreak
  | element {head : Head} {children : List Markup} (plain : head.IsReadable)
    (each : ∀ child ∈ children, IsReadable child) (apart : children.IsChain Apart) :
    IsReadable (element head children)

/-! ### How what is written begins -/

theorem mem_of_cons_eq_escape {dialect : Dialect} {content : String} (nonempty : content ≠ "")
    {q : Char} {s u : List Char} (h : q :: s = (Escape.escape dialect content).toList ++ u) :
    q = '&' ∨ q ∈ content.toList ∧ Escape.entity? dialect q = none := by
  rw [Escape.escape, String.toList_ofList, Escape.escapeChars] at h
  cases shape : content.toList with
  | nil => exact absurd (String.toList_eq_nil_iff.1 shape) nonempty
  | cons c rest =>
    rw [shape, List.flatMap_cons, List.append_assoc] at h
    rcases (Escape.escaping_escapeChar dialect).cons_eq h with marked | ⟨rfl, plain⟩
    · exact .inl marked
    · exact .inr ⟨List.mem_cons_self, not_not.1 plain⟩

/-- No text is written as something that begins with an angle bracket. -/
theorem bracket_ne_escape {dialect : Dialect} {content : String} (nonempty : content ≠ "")
    (s u : List Char) : '<' :: s ≠ (Escape.escape dialect content).toList ++ u := by
  intro same
  rcases mem_of_cons_eq_escape nonempty same with marked | ⟨-, plain⟩
  · exact absurd marked (by decide)
  · cases plain

/-- No text on one line is written as something that begins with a line break. -/
theorem newline_ne_escape {dialect : Dialect} {content : String} (nonempty : content ≠ "")
    (oneLine : IsOneLine content) (s u : List Char) :
    '\n' :: s ≠ (Escape.escape dialect content).toList ++ u := by
  intro same
  rcases mem_of_cons_eq_escape nonempty same with marked | ⟨inside, -⟩
  · exact absurd marked (by decide)
  · exact oneLine inside

/-- A text on one line reads back up to a tag or the end of its line. -/
theorem readsBack_escape {dialect : Dialect} {content : String} (oneLine : IsOneLine content) :
    ReadsBack IsOneLine (fun s => ∃ rest, s = '<' :: rest ∨ s = '\n' :: rest)
      (fun content => (Escape.escape dialect content).toList) content := by
  have inside : ∀ {content : String}, IsOneLine content → ∀ c ∈ content.toList, c ≠ '\n' := by
    rintro content oneLine c mem rfl
    exact oneLine mem
  have chars : ReadsBack (fun text => ∀ c ∈ text, c ≠ '\n')
      (fun s => ∃ rest, s = '<' :: rest ∨ s = '\n' :: rest) (Escape.escapeChars dialect)
      content.toList := by
    refine (Escape.escaping_escapeChar dialect).readsBack_flatMap ?_ (inside oneLine)
    rintro s ⟨rest, rfl | rfl⟩
    · exact ⟨'<', rest, rfl, by decide, fun _ => Option.some_ne_none _⟩
    · exact ⟨'\n', rest, rfl, by decide, fun broken => absurd rfl broken⟩
  intro other s t oneLine' first second same
  simp only [Escape.escape, String.toList_ofList] at same
  obtain ⟨texts, rest⟩ := chars (inside oneLine') first second same
  exact ⟨String.toList_injective texts, rest⟩

/-- An opening tag begins with an angle bracket and a letter that no line break has. -/
theorem openTag_front (dialect : Dialect) {head : Head} (readable : head.IsReadable) :
    ∃ c rest, (openTag dialect head).toList = '<' :: c :: rest ∧ c ∈ ['d', 'p', 's'] := by
  have tag := readable.tag
  simp only [List.mem_cons, List.not_mem_nil, or_false] at tag
  rw [openTag_eq]
  rcases tag with tag | tag | tag <;> simp [tag]

/-- What opens a tag: an angle bracket in front of anything but a slash. -/
def OpensTag (s : List Char) : Prop := ∃ c rest, s = '<' :: c :: rest ∧ c ≠ '/'

/-- A tree that can be read back is a text, or is written with a tag in front. -/
theorem renderInline_cases (dialect : Dialect) {tree : Markup} (readable : tree.IsReadable) :
    (∃ content, tree = text content ∧ content ≠ "" ∧ IsOneLine content) ∨
      tree.isText = false ∧ ∀ u, OpensTag ((renderInline dialect tree).toList ++ u) := by
  cases readable with
  | text nonempty oneLine => exact .inl ⟨_, rfl, nonempty, oneLine⟩
  | lineBreak =>
    exact .inr ⟨rfl, fun u => ⟨'b', "r />".toList ++ u, by simp [renderInline], by decide⟩⟩
  | @element head children plain each apart =>
    obtain ⟨c, rest, front, letter⟩ := openTag_front dialect plain
    refine .inr ⟨rfl, fun u => ⟨c, rest ++ ('>' :: (renderLine dialect children).toList ++
      (closeTag head).toList) ++ u, by simp [renderInline, front], ?_⟩⟩
    rintro rfl
    exact absurd letter (by decide)

/-! ### One line -/

/-- A closing tag. -/
def EndsLine (s : List Char) : Prop := ∃ rest, s = '<' :: '/' :: rest

theorem endsTag_bracket (u : List Char) : EndsTag (">".toList ++ u) := ⟨u, .inl rfl⟩

theorem endsLine_closeTag (head : Head) (u : List Char) : EndsLine ((closeTag head).toList ++ u) :=
  ⟨head.tag.toList ++ '>' :: u, by simp [closeTag]⟩

/-- What follows a text on a line is a tag. -/
theorem bracket_of_apart (dialect : Dialect) {content : String} {siblings : List Markup}
    (each : ∀ child ∈ siblings, child.IsReadable) (apart : (text content :: siblings).IsChain Apart)
    {s : List Char} (ends : EndsLine s) :
    ∃ rest, (renderLine dialect siblings).toList ++ s = '<' :: rest := by
  cases siblings with
  | nil =>
    obtain ⟨rest, rfl⟩ := ends
    exact ⟨'/' :: rest, by simp [renderLine]⟩
  | cons second siblings =>
    rcases renderInline_cases dialect (each second List.mem_cons_self) with
      ⟨other, rfl, -, -⟩ | ⟨-, front⟩
    · rcases (List.isChain_cons_cons.1 apart).1 with noText | noText <;> cases noText
    · obtain ⟨c, rest, front, -⟩ := front ((renderLine dialect siblings).toList ++ s)
      refine ⟨c :: rest, ?_⟩
      rw [renderLine, String.toList_append, List.append_assoc, front]

/-- A closing tag is no tree. -/
theorem EndsLine.ne_renderInline {s : List Char} (ends : EndsLine s) (dialect : Dialect)
    {tree : Markup} (readable : tree.IsReadable) (u : List Char) :
    s ≠ (renderInline dialect tree).toList ++ u := by
  obtain ⟨rest, rfl⟩ := ends
  rcases renderInline_cases dialect readable with ⟨content, rfl, nonempty, -⟩ | ⟨-, front⟩
  · exact bracket_ne_escape nonempty _ _
  · obtain ⟨c, rest', front, other⟩ := front u
    rw [front]
    rintro same
    exact other (List.cons.inj (List.cons.inj same).2).1.symm

/-- A tree that can be read back and is no text. -/
def IsTag (tree : Markup) : Prop := tree.IsReadable ∧ tree.isText = false

/-- Siblings that can be read back. -/
def AreReadable (siblings : List Markup) : Prop :=
  (∀ child ∈ siblings, child.IsReadable) ∧ siblings.IsChain Apart

/-- Trees on one line read back in front of a closing tag, if each of them does that is no text. -/
theorem readsBack_renderLine (dialect : Dialect) {siblings : List Markup}
    (readable : AreReadable siblings)
    (tags : ∀ child ∈ siblings, child.isText = false →
      ReadsBack IsTag Anything (fun tree => (renderInline dialect tree).toList) child) :
    ReadsBack AreReadable EndsLine
      (fun siblings => (renderLine dialect siblings).toList) siblings := by
  induction siblings with
  | nil =>
    rintro others s t ⟨each', -⟩ first second same
    cases others with
    | nil => exact ⟨rfl, by simpa [renderLine] using same⟩
    | cons b others =>
      simp only [renderLine, String.toList_append, List.append_assoc] at same
      exact absurd same (first.ne_renderInline dialect (each' b List.mem_cons_self) _)
  | cons a siblings ih =>
    rintro others s t ⟨each', apart'⟩ first second same
    obtain ⟨each, apart⟩ := readable
    cases others with
    | nil =>
      simp only [renderLine, String.toList_append, List.append_assoc] at same
      exact absurd same.symm (second.ne_renderInline dialect (each a List.mem_cons_self) _)
    | cons b others =>
      obtain ⟨readable, eachRest⟩ := List.forall_mem_cons.1 each
      obtain ⟨readable', eachRest'⟩ := List.forall_mem_cons.1 each'
      obtain ⟨tagsFirst, tagsRest⟩ := List.forall_mem_cons.1 tags
      simp only [renderLine, String.toList_append, List.append_assoc] at same
      obtain ⟨rfl, behind⟩ : a = b ∧ (renderLine dialect siblings).toList ++ s =
          (renderLine dialect others).toList ++ t := by
        rcases renderInline_cases dialect readable with ⟨content, rfl, nonempty, oneLine⟩ |
            ⟨noText, front⟩
        · rcases renderInline_cases dialect readable' with
            ⟨content', rfl, -, oneLine'⟩ | ⟨-, front'⟩
          · obtain ⟨rest, tag⟩ := bracket_of_apart dialect eachRest apart first
            obtain ⟨rest', tag'⟩ := bracket_of_apart dialect eachRest' apart' second
            obtain ⟨rfl, behind⟩ :=
              readsBack_escape oneLine oneLine' ⟨rest, .inl tag⟩ ⟨rest', .inl tag'⟩ same
            exact ⟨rfl, behind⟩
          · obtain ⟨c, rest, tag, -⟩ := front' ((renderLine dialect others).toList ++ t)
            rw [tag] at same
            exact absurd same.symm (bracket_ne_escape nonempty _ _)
        · rcases renderInline_cases dialect readable' with ⟨content', rfl, nonempty', -⟩ |
              ⟨noText', -⟩
          · obtain ⟨c, rest, tag, -⟩ := front ((renderLine dialect siblings).toList ++ s)
            rw [tag] at same
            exact absurd same (bracket_ne_escape nonempty' _ _)
          · exact tagsFirst noText ⟨readable', noText'⟩ trivial trivial same
      obtain ⟨rfl, rest⟩ :=
        ih ⟨eachRest, apart.of_cons⟩ tagsRest ⟨eachRest', apart'.of_cons⟩ first second behind
      exact ⟨rfl, rest⟩

/-- A tree on one line that is no text reads back, whatever follows. -/
theorem readsBack_renderInline (dialect : Dialect) {tree : Markup} (readable : tree.IsReadable) :
    tree.isText = false →
      ReadsBack IsTag Anything (fun tree => (renderInline dialect tree).toList) tree := by
  induction readable with
  | text => exact fun isText => by cases isText
  | lineBreak =>
    rintro - other s t ⟨readable', noText'⟩ - - same
    cases readable' with
    | text => cases noText'
    | lineBreak => exact ⟨rfl, by simpa [renderInline] using same⟩
    | element plain' each' apart' =>
      obtain ⟨c, rest, front, letter⟩ := openTag_front dialect plain'
      simp [renderInline, front] at same
      obtain ⟨rfl, -⟩ := same
      exact absurd letter (by decide)
  | @element head children plain each apart ih =>
    rintro - other s t ⟨readable', noText'⟩ - - same
    cases readable' with
    | text => cases noText'
    | lineBreak =>
      obtain ⟨c, rest, front, letter⟩ := openTag_front dialect plain
      simp [renderInline, front] at same
      obtain ⟨rfl, -⟩ := same
      exact absurd letter (by decide)
    | @element head' children' plain' each' apart' =>
      simp only [renderInline, String.toList_append, List.append_assoc] at same
      obtain ⟨rfl, same⟩ := readsBack_openTag dialect plain plain' (endsTag_bracket _)
        (endsTag_bracket _) same
      obtain ⟨rfl, behind⟩ := readsBack_renderLine dialect ⟨each, apart⟩ ih ⟨each', apart'⟩
        (endsLine_closeTag head s) (endsLine_closeTag head t) (List.append_cancel_left same)
      exact ⟨rfl, List.append_cancel_left behind⟩

/-! ### Lines of their own -/

/-- What stands behind the opening tag of an element without a picture. -/
def afterTag (dialect : Dialect) (depth : Nat) (head : Head) (children : List Markup) : String :=
  if children.isEmpty ∧ dialect = .jsx then " />\n"
  else if allInline children then ">" ++ renderLine dialect children ++ closeTag head ++ "\n"
  else ">\n" ++ renderLines dialect (depth + 1) children ++ indent depth ++ closeTag head ++ "\n"

theorem render_element {head : Head} (noPicture : head.picture = none) (dialect : Dialect)
    (depth : Nat) (children : List Markup) :
    render dialect depth (element head children) =
      indent depth ++ (openTag dialect head ++ afterTag dialect depth head children) := by
  rw [render, noPicture, afterTag]
  cases children with
  | nil => cases dialect <;> simp [renderEmpty, renderLine, allInline, String.append_assoc]
  | cons child rest =>
    simp only [List.isEmpty_cons, Bool.false_eq_true, if_false, false_and]
    split <;> simp only [String.append_assoc]

/-- What stands behind the opening tag of an element: what closes it at once, its content on its
line, or its content on lines of its own. -/
inductive Content (dialect : Dialect) (depth : Nat) (head : Head) (children : List Markup) :
    String → Prop
  | none (empty : children = []) : Content dialect depth head children " />\n"
  | line (inline : allInline children = true) :
    Content dialect depth head children
      (">" ++ renderLine dialect children ++ closeTag head ++ "\n")
  | lines (block : allInline children = false) :
    Content dialect depth head children
      (">\n" ++ renderLines dialect (depth + 1) children ++ indent depth ++ closeTag head ++ "\n")

theorem content_afterTag (dialect : Dialect) (depth : Nat) (head : Head) (children : List Markup) :
    Content dialect depth head children (afterTag dialect depth head children) := by
  unfold afterTag
  split
  · next closed => exact .none (List.isEmpty_iff.1 closed.1)
  · split
    · next inline => exact .line inline
    · next block => exact .lines (Bool.eq_false_iff.2 block)

theorem endsTag_afterTag (dialect : Dialect) (depth : Nat) (head : Head) (children : List Markup)
    (u : List Char) : EndsTag ((afterTag dialect depth head children).toList ++ u) := by
  have content := content_afterTag dialect depth head children
  generalize afterTag dialect depth head children = written at content
  cases content with
  | none => exact ⟨'\n' :: u, .inr (by simp)⟩
  | line => exact ⟨_, .inl (by simp only [String.toList_append, List.append_assoc]; rfl)⟩
  | lines => exact ⟨_, .inl (by simp only [String.toList_append, List.append_assoc]; rfl)⟩

/-- What stands on a line does not begin with a line break. -/
theorem newline_ne_renderLine {dialect : Dialect} {siblings : List Markup}
    (readable : AreReadable siblings) {s : List Char} (ends : EndsLine s) (u : List Char) :
    '\n' :: u ≠ (renderLine dialect siblings).toList ++ s := by
  cases siblings with
  | nil =>
    obtain ⟨rest, rfl⟩ := ends
    simp [renderLine]
  | cons first siblings =>
    rw [renderLine, String.toList_append, List.append_assoc]
    rcases renderInline_cases dialect (readable.1 first List.mem_cons_self) with
      ⟨content, rfl, nonempty, oneLine⟩ | ⟨-, front⟩
    · exact newline_ne_escape nonempty oneLine _ _
    · obtain ⟨c, rest, front, -⟩ := front ((renderLine dialect siblings).toList ++ s)
      rw [front]
      simp

theorem toList_renderLines (dialect : Dialect) (depth : Nat) (siblings : List Markup) :
    (renderLines dialect depth siblings).toList =
      siblings.flatMap fun tree => (render dialect depth tree).toList := by
  induction siblings with
  | nil => simp [renderLines]
  | cons first rest ih => rw [renderLines, String.toList_append, List.flatMap_cons, ih]

theorem toList_indent_succ (depth : Nat) :
    (indent (depth + 1)).toList = (indent depth).toList ++ [' ', ' '] := by
  simp only [indent, String.toList_ofList, Nat.mul_add, List.replicate_add]
  rfl

/-- Every line begins with its blanks. -/
theorem render_front (dialect : Dialect) (depth : Nat) (tree : Markup) :
    (indent depth).toList <+: (render dialect depth tree).toList := by
  cases tree <;> simp only [render, String.toList_append, List.append_assoc] <;>
    exact List.prefix_append _ _

/-- Trees on lines of their own read back in front of a closing tag that is not as deep, if each
does. -/
theorem readsBack_renderLines {dialect : Dialect} {depth : Nat} {siblings : List Markup}
    (readable : ∀ child ∈ siblings, child.IsReadable)
    (each : ∀ child ∈ siblings,
      ReadsBack IsReadable Anything (fun tree => (render dialect (depth + 1) tree).toList) child) :
    ReadsBack (fun siblings : List Markup => ∀ child ∈ siblings, child.IsReadable)
      (fun s => ∃ rest, s = (indent depth).toList ++ rest ∧ EndsLine rest)
      (fun siblings => (renderLines dialect (depth + 1) siblings).toList) siblings := by
  simp only [toList_renderLines]
  refine readsBack_flatMap (fun _ _ _ => trivial) (fun _ _ => trivial) ?_ readable each
  rintro _ ⟨_, rfl, rest, rfl⟩ tree u - same
  obtain ⟨behind, shape⟩ := render_front dialect (depth + 1) tree
  -- Where the closing tag has its bracket, a tree has a blank.
  rw [← shape, toList_indent_succ, List.append_assoc, List.append_assoc] at same
  have first := List.append_cancel_left same
  simp at first

/-- What stands behind an opening tag reads back, if the content does. -/
theorem readsBack_afterTag {dialect : Dialect} {depth : Nat} (head : Head) {children : List Markup}
    (readable : AreReadable children)
    (each : ∀ child ∈ children,
      ReadsBack IsReadable Anything (fun tree => (render dialect (depth + 1) tree).toList) child) :
    ReadsBack AreReadable Anything (fun children => (afterTag dialect depth head children).toList)
      children := by
  intro others s t readable' _ _ same
  have content := content_afterTag dialect depth head children
  have content' := content_afterTag dialect depth head others
  have line := readsBack_renderLine dialect readable fun child mem =>
    readsBack_renderInline dialect (readable.1 child mem)
  have closing := endsLine_closeTag head
  dsimp only at same
  generalize afterTag dialect depth head children = written at content same
  generalize afterTag dialect depth head others = written' at content' same
  cases content with
  | none empty =>
    cases content' with
    | none empty' => exact ⟨empty.trans empty'.symm, List.append_cancel_left same⟩
    | line => simp at same
    | lines => simp at same
  | line inline =>
    cases content' with
    | none => simp at same
    | line =>
      simp only [String.toList_append, List.append_assoc] at same
      obtain ⟨rfl, behind⟩ := line readable' (closing _) (closing _) (List.append_cancel_left same)
      exact ⟨rfl, List.append_cancel_left (List.append_cancel_left behind)⟩
    | lines =>
      simp only [String.toList_append, List.append_assoc] at same
      exact absurd (List.cons.inj same).2.symm (newline_ne_renderLine readable (closing _) _)
  | lines block =>
    cases content' with
    | none => simp at same
    | line =>
      simp only [String.toList_append, List.append_assoc] at same
      exact absurd (List.cons.inj same).2 (newline_ne_renderLine readable' (closing _) _)
    | lines =>
      simp only [String.toList_append, List.append_assoc] at same
      obtain ⟨rfl, behind⟩ := readsBack_renderLines readable.1 each readable'.1
        ⟨_, rfl, closing _⟩ ⟨_, rfl, closing _⟩ (List.append_cancel_left same)
      exact ⟨rfl, by simpa using behind⟩

/-- A tree on lines of its own behind the blanks of its first line. -/
def unindented (dialect : Dialect) (depth : Nat) : Markup → String
  | text content => Escape.escape dialect content ++ "\n"
  | lineBreak => "<br />\n"
  | element head children => openTag dialect head ++ afterTag dialect depth head children

theorem render_eq_indent_append {tree : Markup} (readable : tree.IsReadable) (dialect : Dialect)
    (depth : Nat) : render dialect depth tree = indent depth ++ unindented dialect depth tree := by
  cases readable with
  | text => rw [render, unindented, String.append_assoc]
  | lineBreak => rfl
  | element plain => exact render_element plain.picture dialect depth _

/-- The blanks in front of a tree are known. -/
theorem readsBack_of_unindented {dialect : Dialect} {depth : Nat} {tree : Markup}
    (readable : tree.IsReadable)
    (h : ReadsBack IsReadable Anything (fun tree => (unindented dialect depth tree).toList) tree) :
    ReadsBack IsReadable Anything (fun tree => (render dialect depth tree).toList) tree := by
  intro other s t readable' first second same
  dsimp only at same
  rw [render_eq_indent_append readable, render_eq_indent_append readable', String.toList_append,
    String.toList_append, List.append_assoc, List.append_assoc] at same
  exact h readable' first second (List.append_cancel_left same)

/-- No line break is written like an opening tag. -/
theorem lineBreak_ne_openTag (dialect : Dialect) {head : Head} (readable : head.IsReadable)
    (s u : List Char) : "<br />\n".toList ++ s ≠ (openTag dialect head).toList ++ u := by
  obtain ⟨c, rest, front, letter⟩ := openTag_front dialect readable
  rw [front]
  intro same
  obtain rfl := (List.cons.inj (List.cons.inj same).2).1
  exact absurd letter (by decide)

/-- A tree on lines of its own reads back, whatever follows. -/
theorem readsBack_render (dialect : Dialect) {tree : Markup} (readable : tree.IsReadable) :
    ∀ depth,
      ReadsBack IsReadable Anything (fun tree => (render dialect depth tree).toList) tree := by
  induction readable with
  | @text content nonempty oneLine =>
    refine fun depth => readsBack_of_unindented (.text nonempty oneLine) ?_
    intro other s t readable' _ _ same
    cases readable' with
    | text nonempty' oneLine' =>
      simp only [unindented, String.toList_append, List.append_assoc] at same
      obtain ⟨rfl, behind⟩ := readsBack_escape oneLine oneLine' ⟨s, .inr rfl⟩ ⟨t, .inr rfl⟩ same
      exact ⟨rfl, (List.cons.inj behind).2⟩
    | lineBreak =>
      simp only [unindented, String.toList_append, List.append_assoc] at same
      exact absurd same.symm (bracket_ne_escape nonempty _ _)
    | element plain' =>
      obtain ⟨c, rest, front, -⟩ := openTag_front dialect plain'
      simp only [unindented, front, String.toList_append, List.append_assoc] at same
      exact absurd same.symm (bracket_ne_escape nonempty _ _)
  | lineBreak =>
    refine fun depth => readsBack_of_unindented .lineBreak ?_
    intro other s t readable' _ _ same
    cases readable' with
    | text nonempty' =>
      simp only [unindented, String.toList_append, List.append_assoc] at same
      exact absurd same (bracket_ne_escape nonempty' _ _)
    | lineBreak => exact ⟨rfl, List.append_cancel_left same⟩
    | element plain' =>
      simp only [unindented, String.toList_append, List.append_assoc] at same
      exact absurd same (lineBreak_ne_openTag dialect plain' _ _)
  | @element head children plain each apart ih =>
    refine fun depth => readsBack_of_unindented (.element plain each apart) ?_
    intro other s t readable' _ _ same
    cases readable' with
    | text nonempty' =>
      obtain ⟨c, rest, front, -⟩ := openTag_front dialect plain
      simp only [unindented, front, String.toList_append, List.append_assoc] at same
      exact absurd same (bracket_ne_escape nonempty' _ _)
    | lineBreak =>
      simp only [unindented, String.toList_append, List.append_assoc] at same
      exact absurd same.symm (lineBreak_ne_openTag dialect plain _ _)
    | @element head' children' plain' each' apart' =>
      simp only [unindented, String.toList_append, List.append_assoc] at same
      obtain ⟨rfl, behind⟩ := readsBack_openTag dialect plain plain' (endsTag_afterTag ..)
        (endsTag_afterTag ..) same
      obtain ⟨rfl, rest⟩ := readsBack_afterTag head ⟨each, apart⟩
        (fun child mem => ih child mem (depth + 1)) ⟨each', apart'⟩ trivial trivial behind
      exact ⟨rfl, rest⟩

/-- **Rendering loses nothing.** In each dialect and at each depth, two trees that can be read back
are rendered alike only if they are the same. -/
theorem render_eq_iff (dialect : Dialect) (depth : Nat) {a b : Markup} (readable : a.IsReadable)
    (readable' : b.IsReadable) : render dialect depth a = render dialect depth b ↔ a = b := by
  refine ⟨fun same => ?_, fun same => same ▸ rfl⟩
  have chars : (render dialect depth a).toList ++ [] = (render dialect depth b).toList ++ [] := by
    rw [same]
  exact (readsBack_render dialect readable depth readable' trivial trivial chars).1

/-- A box in some order, around two lines of text. -/
def card (order : String) : Markup :=
  .element { tag := "div", classes := ["card", "row-2"], style := [⟨"z-index", order⟩] }
    [.text "a < b", .lineBreak, .element { tag := "span" } [.text "c"]]

theorem isReadable_card {order : String} (value : ';' ∉ order.toList) :
    (card order).IsReadable := by
  have stacked : IsKebabCase "z-index" :=
    ⟨["z".toList, "index".toList], by decide, by simp, .inl (by decide)⟩
  have inner : (element { tag := "span" } [text "c"]).IsReadable :=
    .element ⟨by simp, by simp, by simp, rfl⟩
      (List.forall_mem_singleton.2 (.text (by decide) (by decide))) (.singleton _)
  refine .element ⟨by simp, by simp only; decide, List.forall_mem_singleton.2 ⟨stacked, value⟩,
    rfl⟩ ?_
    (by simp [Apart, isText])
  simp only [List.forall_mem_cons, List.not_mem_nil, false_implies, implies_true, and_true]
  exact ⟨.text (by decide) (by decide), .lineBreak, inner⟩

theorem render_card_ne : (card "1").IsReadable ∧ (card "10").IsReadable ∧
    render .jsx 1 (card "1") ≠ render .jsx 1 (card "10") := by
  have one : (card "1").IsReadable := isReadable_card (by decide)
  have ten : (card "10").IsReadable := isReadable_card (by decide)
  refine ⟨one, ten, fun same => ?_⟩
  have equal := (render_eq_iff .jsx 1 one ten).1 same
  simp [card] at equal

end SceneMarkup.Markup
