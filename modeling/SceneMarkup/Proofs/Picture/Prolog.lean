import SceneMarkup.Proofs.Picture.Inlining

/-!
# The prolog of a picture

In front of its root a picture may have an XML declaration and a document type, with blanks around
them. A document type says where its declarations are found, or brackets some of its own.

* `Prolog`: what stands in front of a root, part by part, with what XML asks of each part;
* `Prolog.chars`: the text of a prolog;
* `Doctype.IsPlain`: a document type whose address has no angle bracket and which brackets no
  markup;
* `Doctype.left`, `withoutProlog_append`: what is left of the text in front of a root: a document
  type is taken to end at the first closing angle bracket in it;
* `length_written`, `eq_nil_of_inlinedChars_append`: nothing more can stand in front of a picture
  that is inlined alike under every suffix;
* `prolog_removed_iff`: **a prolog is removed whole exactly if its document type is plain.**
-/

namespace SceneMarkup.Picture

/-! ### Parts of a prolog -/

instance (c : Char) : Decidable (IsQuote c) := inferInstanceAs (Decidable (c = '\x22' ∨ c = '\x27'))

/-- Blanks, or nothing. -/
structure Blanks where
  chars : List Char
  blank : chars.all isBlank = true

/-- Blanks between two words. -/
structure Gap extends Blanks where
  some : chars ≠ []

/-- The characters that set the parts of a declaration apart. -/
def marks : List Char := "<>[]()%;&=?!,|*+#/\x22\x27".toList

/-- A character of a name: neither a blank nor a mark. -/
def isNameChar (c : Char) : Bool := !isBlank c && !marks.contains c

structure Name where
  chars : List Char
  named : chars.all isNameChar = true
  some : chars ≠ []

/-- A text in quotes. -/
structure Literal where
  quote : Char
  content : List Char
  isQuote : IsQuote quote
  absent : quote ∉ content

namespace Literal

def chars (literal : Literal) : List Char := literal.quote :: literal.content ++ [literal.quote]

end Literal

/-- One setting of an XML declaration: its version, its encoding, or whether it stands alone. -/
structure Setting where
  gap : Gap
  key : Name
  before : Blanks
  after : Blanks
  value : Literal
  plain : value.content.all isNameChar = true

namespace Setting

def chars (setting : Setting) : List Char :=
  setting.gap.chars ++ setting.key.chars ++ setting.before.chars ++ '=' :: setting.after.chars ++
    setting.value.chars

end Setting

structure XmlDeclaration where
  settings : List Setting
  after : Blanks

namespace XmlDeclaration

/-- What stands between the brackets of a declaration. -/
def inner (declaration : XmlDeclaration) : List Char :=
  declaration.settings.flatMap Setting.chars ++ declaration.after.chars

def chars (declaration : XmlDeclaration) : List Char :=
  "<?xml".toList ++ declaration.inner ++ "?>".toList

end XmlDeclaration

/-- A character of a public identifier. -/
def isPublicChar (c : Char) : Bool :=
  c.isAlphanum || " \r\n-\x27()+,./:=?;!*#@$_%".toList.contains c

structure PublicIdentifier extends Literal where
  plain : content.all isPublicChar = true

/-- Where the declarations of a document type are found: at an address, and under a public
identifier if any. -/
structure Source where
  front : Gap
  identifier : Option (Gap × PublicIdentifier)
  gap : Gap
  address : Literal

namespace Source

def chars (source : Source) : List Char :=
  source.front.chars ++
    source.identifier.elim "SYSTEM".toList
      (fun known => "PUBLIC".toList ++ known.1.chars ++ known.2.chars) ++
    source.gap.chars ++ source.address.chars

end Source

/-- A piece of a bracketed declaration: some character, or a text in quotes. -/
inductive Piece where
  | plain (c : Char) (isPlain : c ≠ '<' ∧ c ≠ '>' ∧ ¬ IsQuote c)
  | literal (value : Literal)

namespace Piece

def chars : Piece → List Char
  | plain c _ => [c]
  | literal value => value.chars

end Piece

/-- What a bracketed declaration may declare. -/
def keywords : List (List Char) :=
  ["ELEMENT".toList, "ATTLIST".toList, "ENTITY".toList, "NOTATION".toList]

/-- What a document type brackets: blanks, references to what was declared, and markup. -/
inductive Item where
  | blank (c : Char) (isBlank : isBlank c = true)
  | reference (name : Name)
  | comment (text : List Char) (unclosed : ¬ "--".toList <:+: text ++ ['-'])
  | instruction (target : Name) (text : List Char) (unclosed : ¬ "?>".toList <:+: text)
  | declaration (keyword : List Char) (listed : keyword ∈ keywords) (gap : Gap)
    (pieces : List Piece)

namespace Item

def chars : Item → List Char
  | blank c _ => [c]
  | reference name => '%' :: name.chars ++ [';']
  | comment text _ => "<!--".toList ++ text ++ "-->".toList
  | instruction target text _ => "<?".toList ++ target.chars ++ text ++ "?>".toList
  | declaration keyword _ gap pieces =>
    "<!".toList ++ keyword ++ gap.chars ++ pieces.flatMap Piece.chars ++ ">".toList

def IsMarkup : Item → Prop
  | blank .. | reference .. => False
  | comment .. | instruction .. | declaration .. => True

end Item

/-- What a document type brackets, and the blanks behind the bracket. -/
structure Subset where
  items : List Item
  after : Blanks

namespace Subset

def chars (subset : Subset) : List Char :=
  '[' :: subset.items.flatMap Item.chars ++ ']' :: subset.after.chars

end Subset

structure Doctype where
  gap : Gap
  name : Name
  source : Option Source
  after : Blanks
  subset : Option Subset

namespace Doctype

/-- What stands between the angle brackets of a document type. -/
def inner (doctype : Doctype) : List Char :=
  doctype.gap.chars ++ doctype.name.chars ++ doctype.source.elim [] Source.chars ++
    doctype.after.chars ++
    doctype.subset.elim [] Subset.chars

def chars (doctype : Doctype) : List Char := "<!DOCTYPE".toList ++ doctype.inner ++ ">".toList

/-- The address of a document type has no closing angle bracket, and the document type brackets no
markup. -/
structure IsPlain (doctype : Doctype) : Prop where
  address : ∀ source ∈ doctype.source, '>' ∉ source.address.content
  subset : ∀ subset ∈ doctype.subset, ∀ item ∈ subset.items, ¬ item.IsMarkup

/-- What is left of a document type: what stands behind the first closing angle bracket in it. -/
def left (doctype : Doctype) : List Char :=
  (afterFirst? ['>'] doctype.inner).elim [] (· ++ ['>'])

end Doctype

/-- What stands in front of the root of a picture. -/
structure Prolog where
  before : Blanks
  declaration : Option XmlDeclaration
  between : Blanks
  doctype : Option Doctype
  after : Blanks

namespace Prolog

def chars (prolog : Prolog) : List Char :=
  prolog.before.chars ++ prolog.declaration.elim [] XmlDeclaration.chars ++ prolog.between.chars ++
    prolog.doctype.elim [] Doctype.chars ++ prolog.after.chars

/-- What is left of a prolog. -/
def left (prolog : Prolog) : List Char :=
  (prolog.doctype.elim [] Doctype.left ++ prolog.after.chars).dropWhile isBlank

end Prolog

/-! ### Where a closing angle bracket is -/

theorem Blanks.closing_not_mem (blanks : Blanks) : '>' ∉ blanks.chars :=
  fun mem => absurd (List.all_eq_true.1 blanks.blank _ mem) (by decide)

theorem Name.closing_not_mem (name : Name) : '>' ∉ name.chars :=
  fun mem => absurd (List.all_eq_true.1 name.named _ mem) (by decide)

theorem Literal.closing_mem_iff (literal : Literal) :
    '>' ∈ literal.chars ↔ '>' ∈ literal.content := by
  have other : '>' ≠ literal.quote := by
    rcases literal.isQuote with same | same <;> rw [same] <;> decide
  simp [Literal.chars, other]

theorem Setting.closing_not_mem (setting : Setting) : '>' ∉ setting.chars := by
  have value : '>' ∉ setting.value.content :=
    fun mem => absurd (List.all_eq_true.1 setting.plain _ mem) (by decide)
  simp [Setting.chars, setting.gap.closing_not_mem, setting.key.closing_not_mem,
    setting.before.closing_not_mem, setting.after.closing_not_mem, setting.value.closing_mem_iff,
    value]

theorem XmlDeclaration.closing_not_mem (declaration : XmlDeclaration) :
    '>' ∉ declaration.inner := by
  simp [XmlDeclaration.inner, Setting.closing_not_mem, declaration.after.closing_not_mem]

/-- Only the address of a source can have a closing angle bracket. -/
theorem Source.closing_mem_iff (source : Source) :
    '>' ∈ source.chars ↔ '>' ∈ source.address.content := by
  have front : '>' ∉ source.identifier.elim "SYSTEM".toList
      (fun known => "PUBLIC".toList ++ known.1.chars ++ known.2.chars) := by
    cases source.identifier with
    | none => decide
    | some known =>
      have content : '>' ∉ known.2.content :=
        fun mem => absurd (List.all_eq_true.1 known.2.plain _ mem) (by decide)
      simp [known.1.closing_not_mem, known.2.closing_mem_iff, content]
  simp only [Source.chars, List.mem_append, source.front.closing_not_mem, front,
    source.gap.closing_not_mem, false_or, source.address.closing_mem_iff]

/-- What is bracketed has a closing angle bracket exactly if it is markup. -/
theorem Item.closing_mem_iff (item : Item) : '>' ∈ item.chars ↔ item.IsMarkup := by
  cases item with
  | blank c isBlank =>
    have other : '>' ≠ c := by
      rintro rfl
      exact absurd isBlank (by decide)
    simp [Item.chars, Item.IsMarkup, other]
  | reference name => simp [Item.chars, Item.IsMarkup, name.closing_not_mem]
  | comment => simp [Item.chars, Item.IsMarkup]
  | instruction => simp [Item.chars, Item.IsMarkup]
  | declaration => simp [Item.chars, Item.IsMarkup]

theorem Subset.closing_mem_iff (subset : Subset) :
    '>' ∈ subset.chars ↔ ∃ item ∈ subset.items, item.IsMarkup := by
  simp [Subset.chars, subset.after.closing_not_mem, Item.closing_mem_iff]

/-- A document type is plain exactly if no closing angle bracket stands between its own. -/
theorem Doctype.isPlain_iff (doctype : Doctype) : doctype.IsPlain ↔ '>' ∉ doctype.inner := by
  have source : '>' ∈ doctype.source.elim [] Source.chars ↔
      ∃ source ∈ doctype.source, '>' ∈ source.address.content := by
    cases doctype.source <;> simp [Source.closing_mem_iff]
  have subset : '>' ∈ doctype.subset.elim [] Subset.chars ↔
      ∃ subset ∈ doctype.subset, ∃ item ∈ subset.items, item.IsMarkup := by
    cases doctype.subset <;> simp [Subset.closing_mem_iff]
  have inner : '>' ∈ doctype.inner ↔ (∃ source ∈ doctype.source, '>' ∈ source.address.content) ∨
      ∃ subset ∈ doctype.subset, ∃ item ∈ subset.items, item.IsMarkup := by
    simp only [Doctype.inner, List.mem_append, doctype.gap.closing_not_mem,
      doctype.name.closing_not_mem, doctype.after.closing_not_mem, source, subset, false_or,
      or_false]
  rw [inner, not_or]
  constructor
  · exact fun plain => ⟨fun ⟨_, here, mem⟩ => plain.address _ here mem,
      fun ⟨_, here, _, mem, isMarkup⟩ => plain.subset _ here _ mem isMarkup⟩
  · exact fun ⟨address, subset⟩ => ⟨fun _ here mem => address ⟨_, here, mem⟩,
      fun _ here _ mem isMarkup => subset ⟨_, here, _, mem, isMarkup⟩⟩

/-! ### What a section ends with -/

/-- A section ends where its closing text occurs first, which is with the first of the last
characters of it. -/
theorem afterFirst?_append {front : List Char} {stop : Char} (absent : stop ∉ front)
    {closing : List Char} (once : stop ∉ closing) (rest : List Char) :
    afterFirst? (closing ++ [stop]) (front ++ closing ++ stop :: rest) = some rest := by
  induction front with
  | nil =>
    have here : after? (closing ++ [stop]) (closing ++ stop :: rest) = some rest :=
      after?_eq_some_iff.2 (by simp)
    rw [List.nil_append]
    generalize closing ++ stop :: rest = text at here
    cases text with
    | nil => rw [afterFirst?, here]
    | cons c text => rw [afterFirst?, here]
  | cons c front ih =>
    obtain ⟨-, behind⟩ := not_or.1 (mt List.mem_cons.2 absent)
    have later : after? (closing ++ [stop]) (c :: (front ++ closing ++ stop :: rest)) = none := by
      refine Option.eq_none_iff_forall_ne_some.2 fun left found => ?_
      -- Up to the first of the last characters, this text is longer than the closing text.
      have long : until? stop (c :: (front ++ closing ++ stop :: rest)) =
          some (c :: (front ++ closing), rest) :=
        until?_eq_some_iff.2 ⟨by simpa [once] using absent, rfl⟩
      have short : until? stop (c :: (front ++ closing ++ stop :: rest)) = some (closing, left) :=
        until?_eq_some_iff.2 ⟨once, by simpa using after?_eq_some_iff.1 found⟩
      have lengths := congrArg (fun found => found.map (·.1.length)) (long.symm.trans short)
      simp at lengths
      omega
    rw [List.cons_append, List.cons_append, afterFirst?, later]
    exact ih behind

theorem withoutSection_append {opening closing text rest : List Char}
    (ends : afterFirst? closing text = some rest) :
    withoutSection opening closing (opening ++ text) = rest := by
  rw [withoutSection, after?_eq_some_iff.2 rfl, Option.bind_some, ends, Option.getD_some]

theorem XmlDeclaration.chars_eq (declaration : XmlDeclaration) :
    declaration.chars = '<' :: '?' :: ("xml".toList ++ declaration.inner ++ ['?', '>']) := rfl

/-- An XML declaration is removed whole. -/
theorem withoutSection_declaration (declaration : XmlDeclaration) (rest : List Char) :
    withoutSection "<?xml".toList "?>".toList (declaration.chars ++ rest) = rest := by
  have shape : declaration.chars ++ rest =
      "<?xml".toList ++ (declaration.inner ++ ['?'] ++ '>' :: rest) := by
    simp [declaration.chars_eq]
  have closing : "?>".toList = ['?'] ++ ['>'] := rfl
  have once : '>' ∉ ['?'] := by decide
  rw [shape, closing]
  exact withoutSection_append (afterFirst?_append declaration.closing_not_mem once rest)

theorem afterFirst?_closing {front : List Char} (absent : '>' ∉ front) (rest : List Char) :
    afterFirst? ['>'] (front ++ '>' :: rest) = some rest := by
  have once : '>' ∉ [] := List.not_mem_nil
  simpa using afterFirst?_append absent once rest

theorem afterFirst?_eq_none {text : List Char} (absent : '>' ∉ text) :
    afterFirst? ['>'] text = none := by
  induction text with
  | nil => rfl
  | cons c text ih =>
    obtain ⟨other, behind⟩ := not_or.1 (mt List.mem_cons.2 absent)
    rw [afterFirst?, after?, if_neg other]
    exact ih behind

namespace Doctype

/-- What is left of a document type stands behind the first closing angle bracket in it, which may
be its own. -/
theorem left_cases (doctype : Doctype) :
    ('>' ∉ doctype.inner ∧ doctype.left = []) ∨
      ∃ front behind, '>' ∉ front ∧ doctype.inner = front ++ '>' :: behind ∧
        doctype.left = behind ++ ['>'] := by
  by_cases closes : '>' ∈ doctype.inner
  · obtain ⟨front, behind, whole, absent⟩ := List.eq_append_cons_of_mem closes
    refine .inr ⟨front, behind, absent, whole, ?_⟩
    rw [left, whole, afterFirst?_closing absent]
    rfl
  · refine .inl ⟨closes, ?_⟩
    rw [left, afterFirst?_eq_none closes]
    rfl

theorem left_eq_nil_iff (doctype : Doctype) : doctype.left = [] ↔ doctype.IsPlain := by
  rw [doctype.isPlain_iff]
  rcases doctype.left_cases with ⟨absent, left⟩ | ⟨front, behind, -, whole, left⟩
  · simp [absent, left]
  · simp [whole, left]

/-- What is left of a document type ends with its closing angle bracket. -/
theorem closing_mem_left {doctype : Doctype} (nonempty : doctype.left ≠ []) :
    '>' ∈ doctype.left := by
  rcases doctype.left_cases with ⟨-, left⟩ | ⟨front, behind, -, -, left⟩
  · exact absurd left nonempty
  · simp [left]

end Doctype

/-- A document type begins with an exclamation mark, so it is no XML declaration. -/
theorem Doctype.chars_eq (doctype : Doctype) :
    doctype.chars = '<' :: '!' :: ("DOCTYPE".toList ++ doctype.inner ++ ['>']) := rfl

/-- A document type is removed up to the first closing angle bracket in it. -/
theorem withoutSection_doctype (doctype : Doctype) (rest : List Char) :
    withoutSection "<!DOCTYPE".toList ">".toList (doctype.chars ++ rest) =
      doctype.left ++ rest := by
  have shape : doctype.chars ++ rest = "<!DOCTYPE".toList ++ (doctype.inner ++ '>' :: rest) := by
    simp [doctype.chars_eq]
  have ends : afterFirst? ['>'] (doctype.inner ++ '>' :: rest) = some (doctype.left ++ rest) := by
    rcases doctype.left_cases with ⟨absent, left⟩ | ⟨front, behind, absent, whole, left⟩
    · rw [left, afterFirst?_closing absent, List.nil_append]
    · rw [left, whole, List.append_assoc, List.cons_append, afterFirst?_closing absent]
      simp
  rw [shape]
  exact withoutSection_append ends

/-! ### What is left in front of a root -/

theorem dropWhile_isBlank_append {front text : List Char}
    (solid : ∀ c ∈ text.head?, isBlank c = false) :
    (front ++ text).dropWhile isBlank = front.dropWhile isBlank ++ text := by
  rw [List.dropWhile_append]
  split
  · next blank => rw [List.isEmpty_iff.1 blank, List.nil_append, dropWhile_isBlank_eq_self solid]
  · rfl

theorem Blanks.dropWhile_append (blanks : Blanks) (text : List Char) :
    (blanks.chars ++ text).dropWhile isBlank = text.dropWhile isBlank :=
  List.dropWhile_append_of_pos (List.all_eq_true.1 blanks.blank)

/-- A text that begins with a tag: an angle bracket and neither a question mark nor an exclamation
mark. -/
def BeginsTag (text : List Char) : Prop := ∃ c rest, text = '<' :: c :: rest ∧ c ≠ '?' ∧ c ≠ '!'

theorem BeginsTag.solid {text : List Char} (begins : BeginsTag text) :
    ∀ c ∈ text.head?, isBlank c = false := by
  obtain ⟨c, rest, rfl, -⟩ := begins
  simp
  decide

theorem BeginsTag.dropWhile_append {text : List Char} (begins : BeginsTag text) (blanks : Blanks) :
    (blanks.chars ++ text).dropWhile isBlank = text := by
  rw [blanks.dropWhile_append, dropWhile_isBlank_eq_self begins.solid]

/-- A part of a prolog, if it is there, is removed as far as its section is, with the blanks around
it. -/
theorem dropWhile_withoutSection {α : Type} {opening closing rest : List Char}
    {chars : α → List Char} (left : α → List Char)
    (removed : ∀ part rest, withoutSection opening closing (chars part ++ rest) = left part ++ rest)
    (solid : ∀ part, ∀ c ∈ (chars part ++ rest).head?, isBlank c = false)
    (other : ¬ opening <+: rest.dropWhile isBlank) (blanks : Blanks) (part : Option α) :
    (withoutSection opening closing
      ((blanks.chars ++ (part.elim [] chars ++ rest)).dropWhile isBlank)).dropWhile
        isBlank = (part.elim [] left ++ rest).dropWhile isBlank := by
  rw [blanks.dropWhile_append]
  cases part with
  | none =>
    rw [Option.elim_none, Option.elim_none, List.nil_append, withoutSection_of_not_prefix other,
      List.dropWhile_idempotent]
  | some part =>
    rw [Option.elim_some, Option.elim_some, dropWhile_isBlank_eq_self (solid part), removed]

/-- **What is left of a prolog stands in front of the root.** -/
theorem withoutProlog_append (prolog : Prolog) {text : List Char} (begins : BeginsTag text) :
    withoutProlog (prolog.chars ++ text) = prolog.left ++ text := by
  have noDoctype : ¬ "<!DOCTYPE".toList <+: (prolog.after.chars ++ text).dropWhile isBlank := by
    rw [begins.dropWhile_append]
    obtain ⟨c, rest, rfl, -, other⟩ := begins
    simp [List.cons_prefix_cons, other.symm]
  have noDeclaration : ¬ "<?xml".toList <+: (prolog.between.chars ++
      (prolog.doctype.elim [] Doctype.chars ++ (prolog.after.chars ++ text))).dropWhile
        isBlank := by
    rw [prolog.between.dropWhile_append]
    cases prolog.doctype with
    | none =>
      rw [Option.elim_none, List.nil_append, begins.dropWhile_append]
      obtain ⟨c, rest, rfl, other, -⟩ := begins
      simp [List.cons_prefix_cons, other.symm]
    | some doctype =>
      rw [Option.elim_some, doctype.chars_eq, List.cons_append,
        List.dropWhile_cons_of_neg (by decide)]
      simp [List.cons_prefix_cons]
  have opens : isBlank '<' = false := by decide
  have first := dropWhile_withoutSection (fun _ => []) withoutSection_declaration
    (fun declaration => by simp [declaration.chars_eq, opens]) noDeclaration prolog.before
      prolog.declaration
  have second := dropWhile_withoutSection Doctype.left withoutSection_doctype
    (fun doctype => by simp [doctype.chars_eq, opens]) noDoctype prolog.between prolog.doctype
  have nothing : prolog.declaration.elim [] (fun _ => ([] : List Char)) = [] := by
    cases prolog.declaration <;> rfl
  rw [nothing, List.nil_append] at first
  rw [withoutProlog, Prolog.chars]
  simp only [List.append_assoc]
  rw [first, second, ← List.append_assoc, dropWhile_isBlank_append begins.solid, Prolog.left]

theorem Prolog.left_eq_nil_iff (prolog : Prolog) :
    prolog.left = [] ↔ ∀ doctype ∈ prolog.doctype, doctype.IsPlain := by
  rw [Prolog.left, List.dropWhile_eq_nil_iff]
  cases prolog.doctype with
  | none => simpa using List.all_eq_true.1 prolog.after.blank
  | some doctype =>
    simp only [Option.elim_some, Option.mem_some_iff, forall_eq', ← doctype.left_eq_nil_iff]
    constructor
    · intro blank
      by_contra nonempty
      have mem := List.mem_append_left prolog.after.chars (Doctype.closing_mem_left nonempty)
      exact absurd (blank _ mem) (by decide)
    · intro empty
      rw [empty]
      exact List.all_eq_true.1 prolog.after.blank

/-! ### Pictures that are inlined alike -/

/-- Whether a token has a name. -/
def Token.isNamed : Token → Bool
  | .other _ => false
  | _ => true

theorem Token.length_rename (suffix : List Char) (token : Token) :
    (token.rename suffix).chars.length =
      token.chars.length + if token.isNamed then suffix.length + 1 else 0 := by
  cases token <;> simp [Token.rename, Token.isNamed] <;> omega

/-- A suffix makes a text longer by a hyphen and itself for every name. -/
theorem length_written (suffix text : List Char) :
    (written suffix (tokens text)).length =
      text.length + (suffix.length + 1) * (tokens text).countP Token.isNamed := by
  conv => rhs; arg 1; rw [← flatMap_chars_tokens text]
  induction tokens text with
  | nil => rfl
  | cons token items ih =>
    rw [written, List.flatMap_cons, ← written, List.length_append, ih, Token.length_rename,
      List.flatMap_cons, List.length_append, List.countP_cons, Nat.mul_add]
    split <;> omega

/-- Nothing more stands in front of a text that is renamed alike under every suffix. -/
theorem eq_nil_of_written_append {front : List Char} (text : List Char)
    (same : ∀ suffix, written suffix (tokens (front ++ text)) = written suffix (tokens text)) :
    front = [] := by
  have lengths : ∀ n : ℕ, front.length + (n + 1) * (tokens (front ++ text)).countP Token.isNamed =
      (n + 1) * (tokens text).countP Token.isNamed := by
    intro n
    have length := congrArg List.length (same (List.replicate n '-'))
    rw [length_written, length_written, List.length_append, List.length_replicate] at length
    omega
  have zero := lengths 0
  have one := lengths 1
  exact List.length_eq_zero_iff.1 (by omega)

theorem trimEnd_append {front text : List Char}
    (solid : ∃ c ∈ text, Unicode.isWhiteSpace c = false) :
    Unicode.trimEnd (front ++ text) = front ++ Unicode.trimEnd text := by
  obtain ⟨c, mem, solid⟩ := solid
  have nonempty : ¬ (text.reverse.dropWhile Unicode.isWhiteSpace).isEmpty = true := by
    rw [List.isEmpty_iff, List.dropWhile_eq_nil_iff]
    intro blank
    simpa [solid] using blank c (List.mem_reverse.2 mem)
  rw [Unicode.trimEnd, List.reverse_append, List.dropWhile_append, if_neg nonempty,
    List.reverse_append, List.reverse_reverse, Unicode.trimEnd]

/-- What is shown of a picture with a prolog: what is left of the prolog, and what is shown without
it. -/
theorem body_append (prolog : Prolog) {text : List Char} (begins : BeginsTag text) :
    body (prolog.chars ++ text) = prolog.left ++ body text := by
  obtain ⟨c, rest, rfl, letter⟩ := id begins
  rw [body, withoutProlog_append prolog begins, body, withoutProlog_of_tag letter]
  exact trimEnd_append ⟨'<', List.mem_cons_self, by decide⟩

/-- **A prolog is removed whole exactly if its document type is plain.** In front of a tag, a
picture with the prolog is inlined like the picture without it, under every suffix, if the document
type has no closing angle bracket but its own, and under some suffix it is not if there is another
one: in the address of the document type, or in markup that it brackets. -/
theorem prolog_removed_iff (prolog : Prolog) {text : String} (begins : BeginsTag text.toList) :
    (∀ suffix, inlined (String.ofList prolog.chars ++ text) suffix = inlined text suffix) ↔
      ∀ doctype ∈ prolog.doctype, doctype.IsPlain := by
  have shown : body (String.ofList prolog.chars ++ text).toList =
      prolog.left ++ body text.toList := by
    rw [String.toList_append, String.toList_ofList, body_append prolog begins]
  rw [← prolog.left_eq_nil_iff]
  constructor
  · intro same
    refine eq_nil_of_written_append (body text.toList) fun suffix => ?_
    have written := congrArg String.toList (same (String.ofList suffix))
    rwa [toList_inlined, toList_inlined, inlinedChars, inlinedChars, shown,
      String.toList_ofList] at written
  · intro empty suffix
    rw [inlined, inlinedChars, shown, empty]
    rfl

/-- No blanks. -/
def Blanks.none : Blanks := ⟨[], rfl⟩

/-- The end of a line. -/
def Blanks.line : Blanks := ⟨['\n'], rfl⟩

def Gap.space : Gap := ⟨⟨[' '], rfl⟩, List.cons_ne_nil _ _⟩

/-- A prolog with a declaration of two settings, and a document type that is found under a public
identifier. -/
def publicProlog : Prolog where
  before := .none
  declaration := some
    { settings :=
        [{ gap := .space, key := ⟨"version".toList, by decide, by decide⟩, before := .none,
           after := .none, value := ⟨'\x22', "1.0".toList, .inl rfl, by decide⟩,
           plain := by decide },
         { gap := .space, key := ⟨"encoding".toList, by decide, by decide⟩, before := .none,
           after := .none, value := ⟨'\x27', "UTF-8".toList, .inr rfl, by decide⟩,
           plain := by decide }]
      after := .none }
  between := .line
  doctype := some
    { gap := .space
      name := ⟨"svg".toList, by decide, by decide⟩
      source := some
        { front := .space
          identifier :=
            some (.space, ⟨⟨'\x22', "-//DTD SVG 1.1//EN".toList, .inl rfl, by decide⟩, by decide⟩)
          gap := .space
          address := ⟨'\x22', "svg11.dtd".toList, .inl rfl, by decide⟩ }
      after := Gap.space.toBlanks
      subset := some ⟨[.reference ⟨"shared".toList, by decide, by decide⟩], .none⟩ }
  after := .line

theorem prolog_removed_iff_publicProlog :
    publicProlog.chars = ("<?xml version=\x221.0\x22 encoding=\x27UTF-8\x27?>\n" ++
      "<!DOCTYPE svg PUBLIC \x22-//DTD SVG 1.1//EN\x22 \x22svg11.dtd\x22 [%shared;]>\n").toList ∧
    BeginsTag "<svg id=\x22a\x22/>".toList ∧
      ∀ suffix, inlined (String.ofList publicProlog.chars ++ "<svg id=\x22a\x22/>") suffix =
        inlined "<svg id=\x22a\x22/>" suffix := by
  have begins : BeginsTag "<svg id=\x22a\x22/>".toList := ⟨'s', _, rfl, by decide, by decide⟩
  refine ⟨by decide +kernel, begins, (prolog_removed_iff publicProlog begins).2 ?_⟩
  rintro _ ⟨rfl⟩
  constructor
  · rintro _ ⟨rfl⟩
    decide
  · rintro _ ⟨rfl⟩ item mem
    obtain rfl := List.mem_singleton.1 mem
    exact id

/-- A prolog with a document type that declares an entity. -/
def entityProlog : Prolog where
  before := .none
  declaration := none
  between := .none
  doctype := some
    { gap := .space
      name := ⟨"svg".toList, by decide, by decide⟩
      source := none
      after := Gap.space.toBlanks
      subset := some
        { items :=
            [.declaration "ENTITY".toList (by decide) .space
              [.plain 'p' (by decide), .plain ' ' (by decide),
                .literal ⟨'\x22', "red".toList, .inl rfl, by decide⟩]]
          after := .none } }
  after := .line

/-- Of a document type that declares an entity, what follows the declaration is left, and shown with
the picture. -/
theorem entity_declaration_is_left :
    String.ofList entityProlog.chars = "<!DOCTYPE svg [<!ENTITY p \x22red\x22>]>\n" ∧
      inlined (String.ofList entityProlog.chars ++ "<svg id=\x22a\x22/>") "s" =
        "]>\n<svg id=\x22a-s\x22/>" ∧
        inlined "<svg id=\x22a\x22/>" "s" = "<svg id=\x22a-s\x22/>" := by
  refine ⟨by decide +kernel, by decide +kernel, by decide +kernel⟩

end SceneMarkup.Picture
