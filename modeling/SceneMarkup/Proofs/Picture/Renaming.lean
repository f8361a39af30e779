import Mathlib.Data.List.TakeWhile
import SceneMarkup.Picture.Inline

/-!
# Renamed pictures are scanned as they were

The tokens of a picture are scanned once, and each is written with a new name. The result is text
again, and whoever reads it scans it anew. What is found then is what was found before, under the
new names.

* `Form`: the forms of a token with a name: what opens it, and the character that closes it;
* `next_of_form`, `next_cases`: a text that begins with such a token has it as its next token, and
  any other text goes on with other text;
* `Extended`: a text with a piece put in front of some characters that may close a name;
* `Extended.beginsNamed`: no token with a name comes about that way;
* `tokens_written`: **the tokens of the renamed text are the renamed tokens**.
-/

namespace SceneMarkup.Picture

/-! ### What the parts of the scanner find -/

theorem after?_eq_some_iff {pattern text rest : List Char} :
    after? pattern text = some rest ↔ text = pattern ++ rest := by
  refine ⟨fun h => (append_of_after? h).symm, ?_⟩
  rintro rfl
  induction pattern with
  | nil => rfl
  | cons p pattern ih => rw [List.cons_append, after?, if_pos rfl, ih]

theorem until?_eq_some_iff {stop : Char} {text name rest : List Char} :
    until? stop text = some (name, rest) ↔ stop ∉ name ∧ text = name ++ stop :: rest := by
  constructor
  · intro h
    refine ⟨?_, (append_of_until? h).symm⟩
    induction text generalizing name with
    | nil => cases h
    | cons c text ih =>
      rw [until?] at h
      split at h
      · cases h
        exact List.not_mem_nil
      · next other =>
        obtain ⟨⟨found, left⟩, hfound, heq⟩ := Option.map_eq_some_iff.1 h
        cases heq
        exact List.not_mem_cons_of_ne_of_not_mem (Ne.symm other) (ih hfound)
  · rintro ⟨absent, rfl⟩
    induction name with
    | nil => rw [List.nil_append, until?, if_pos rfl]
    | cons c name ih =>
      obtain ⟨other, absent⟩ := not_or.1 (mt List.mem_cons.2 absent)
      rw [List.cons_append, until?, if_neg (Ne.symm other), ih absent]
      rfl

/-- The two characters that quote the value of an attribute. -/
def IsQuote (c : Char) : Prop := c = '\x22' ∨ c = '\x27'

theorem quoted?_eq_some_iff {mark text name rest : List Char} {quote : Char} :
    quoted? mark text = some (quote, name, rest) ↔
      IsQuote quote ∧ quote ∉ name ∧ text = quote :: mark ++ name ++ quote :: rest := by
  cases text with
  | nil => simp [quoted?]
  | cons c text =>
    rw [quoted?]
    split
    · next isQuote =>
      simp only [Option.bind_eq_some_iff, Option.map_eq_some_iff, Prod.mk.injEq, after?_eq_some_iff,
        Prod.exists, until?_eq_some_iff, List.cons_append, List.cons.injEq, List.append_assoc]
      constructor
      · rintro ⟨_, rfl, _, _, ⟨absent, rfl⟩, rfl, rfl, rfl⟩
        exact ⟨isQuote, absent, rfl, rfl⟩
      · rintro ⟨_, absent, rfl, rfl⟩
        exact ⟨_, rfl, _, _, ⟨absent, rfl⟩, rfl, rfl, rfl⟩
    · next other =>
      constructor
      · intro impossible
        cases impossible
      · rintro ⟨isQuote, _, same⟩
        obtain ⟨rfl, -⟩ := List.cons.inj same
        exact absurd isQuote other

/-! ### Forms -/

/-- Blanks, one at least. -/
def AreBlanks (lead : List Char) : Prop := lead ≠ [] ∧ ∀ c ∈ lead, isBlank c = true

/-- The forms of a token with a name: what stands in front of the name, the character that ends it,
and the token of a name. -/
inductive Form : List Char → Char → (List Char → Token) → Prop
  | id {lead : List Char} {quote : Char} (blanks : AreBlanks lead) (isQuote : IsQuote quote) :
    Form (lead ++ "id=".toList ++ [quote]) quote (Token.id lead quote)
  | link {lead key : List Char} {quote : Char} (blanks : AreBlanks lead) (isKey : key ∈ linkKeys)
    (isQuote : IsQuote quote) :
      Form (lead ++ key ++ ['=', quote, '#']) quote (Token.link lead key quote)
  | address : Form "url(#".toList ')' Token.address

/-- A text begins with a token of some form. -/
def BeginsNamed (text : List Char) : Prop :=
  ∃ opening closer make name rest, Form opening closer make ∧ closer ∉ name ∧
    text = opening ++ (name ++ closer :: rest)

variable {opening : List Char} {closer : Char} {make : List Char → Token}

theorem Form.chars_make (form : Form opening closer make) (name : List Char) :
    (make name).chars = opening ++ name ++ [closer] := by
  cases form <;> simp

theorem Form.rename_make (form : Form opening closer make) (name suffix : List Char) :
    (make name).rename suffix = make (name ++ '-' :: suffix) := by
  cases form <;> rfl

/-- A name is closed by a quote or a bracket. -/
theorem Form.closes (form : Form opening closer make) : IsQuote closer ∨ closer = ')' := by
  cases form with
  | id _ isQuote => exact .inl isQuote
  | link _ _ isQuote => exact .inl isQuote
  | address => exact .inr rfl

theorem Form.closer_ne_hyphen (form : Form opening closer make) : closer ≠ '-' := by
  rcases form.closes with (rfl | rfl) | rfl <;> decide

theorem Form.opening_ne_nil (form : Form opening closer make) : opening ≠ [] := by
  cases form <;> simp

theorem hyphen_not_mem_of_areBlanks {lead : List Char} (blanks : AreBlanks lead) : '-' ∉ lead :=
  fun mem => absurd (blanks.2 '-' mem) (by decide)

theorem hyphen_ne_of_isQuote {quote : Char} (isQuote : IsQuote quote) : '-' ≠ quote := by
  rcases isQuote with rfl | rfl <;> decide

/-- What opens a name has no hyphen. -/
theorem Form.hyphen_not_mem_opening (form : Form opening closer make) : '-' ∉ opening := by
  cases form with
  | id blanks isQuote =>
    simp [hyphen_not_mem_of_areBlanks blanks, hyphen_ne_of_isQuote isQuote]
  | link blanks isKey isQuote =>
    have noHyphen : ∀ key ∈ linkKeys, '-' ∉ key := by decide
    simp [hyphen_not_mem_of_areBlanks blanks, noHyphen _ isKey, hyphen_ne_of_isQuote isQuote]
  | address => decide

/-! ### Forms read back -/

theorem takeWhile_isBlank {lead : List Char} {c : Char} (blanks : AreBlanks lead)
    (solid : isBlank c = false) (text : List Char) :
    (lead ++ c :: text).takeWhile isBlank = lead ∧
      (lead ++ c :: text).dropWhile isBlank = c :: text := by
  rw [List.takeWhile_append_of_pos blanks.2, List.dropWhile_append_of_pos blanks.2]
  simp [solid]

theorem id?_eq_some {lead name rest : List Char} {quote : Char} (blanks : AreBlanks lead)
    (isQuote : IsQuote quote) (absent : quote ∉ name) :
    id? (lead ++ "id=".toList ++ [quote] ++ (name ++ quote :: rest)) =
      some (.id lead quote name, rest) := by
  have shape : lead ++ "id=".toList ++ [quote] ++ (name ++ quote :: rest) =
      lead ++ 'i' :: ("d=".toList ++ quote :: (name ++ quote :: rest)) := by simp
  have solid : isBlank 'i' = false := by decide
  obtain ⟨front, back⟩ :=
    takeWhile_isBlank blanks solid ("d=".toList ++ quote :: (name ++ quote :: rest))
  rw [shape, id?, front, back]
  have value : after? "id=".toList ('i' :: ("d=".toList ++ quote :: (name ++ quote :: rest))) =
      some (quote :: (name ++ quote :: rest)) := after?_eq_some_iff.2 rfl
  have found : quoted? [] (quote :: (name ++ quote :: rest)) = some (quote, name, rest) :=
    quoted?_eq_some_iff.2 ⟨isQuote, absent, rfl⟩
  rw [if_neg (by simpa using blanks.1), value, Option.bind_some, found]
  rfl

theorem id?_eq_none {lead : List Char} {c : Char} (blanks : AreBlanks lead)
    (solid : isBlank c = false) (other : c ≠ 'i') (text : List Char) :
    id? (lead ++ c :: text) = none := by
  obtain ⟨front, back⟩ := takeWhile_isBlank blanks solid text
  have value : after? "id=".toList (c :: text) = none := if_neg (Ne.symm other)
  rw [id?, front, back, if_neg (by simpa using blanks.1), value, Option.bind_none]

theorem form_of_id? {text : List Char} {found : Token × List Char} (h : id? text = some found) :
    ∃ lead quote name, AreBlanks lead ∧ IsQuote quote ∧ quote ∉ name ∧
      text = lead ++ "id=".toList ++ [quote] ++ (name ++ quote :: found.2) ∧
      found.1 = .id lead quote name := by
  unfold id? at h
  dsimp only at h
  split at h
  · cases h
  · next nonempty =>
    obtain ⟨value, hvalue, hfound⟩ := Option.bind_eq_some_iff.1 h
    obtain ⟨⟨quote, name, rest⟩, hquoted, rfl⟩ := Option.map_eq_some_iff.1 hfound
    obtain ⟨isQuote, absent, rfl⟩ := quoted?_eq_some_iff.1 hquoted
    refine ⟨text.takeWhile isBlank, quote, name,
      ⟨by simpa using nonempty, fun c => List.mem_takeWhile_imp⟩, isQuote, absent, ?_, rfl⟩
    conv => lhs; rw [← List.takeWhile_append_dropWhile (p := isBlank) (l := text),
        after?_eq_some_iff.1 hvalue]
    simp

theorem linkBy?_eq_some_iff {lead text key rest : List Char} {token : Token} :
    linkBy? lead text key = some (token, rest) ↔
      ∃ quote name, IsQuote quote ∧ quote ∉ name ∧
        text = key ++ ['=', quote, '#'] ++ (name ++ quote :: rest) ∧
        token = .link lead key quote name := by
  simp only [linkBy?, Option.bind_eq_some_iff, Option.map_eq_some_iff, after?_eq_some_iff,
    Prod.exists, Prod.mk.injEq]
  constructor
  · rintro ⟨value, rfl, quote, name, left, hquoted, rfl, rfl⟩
    obtain ⟨isQuote, absent, rfl⟩ := quoted?_eq_some_iff.1 hquoted
    exact ⟨quote, name, isQuote, absent, by simp, rfl⟩
  · rintro ⟨quote, name, isQuote, absent, rfl, rfl⟩
    have value : key ++ ['=', quote, '#'] ++ (name ++ quote :: rest) =
        key ++ ['='] ++ (quote :: ['#'] ++ name ++ quote :: rest) := by simp
    exact ⟨_, value, quote, name, rest, quoted?_eq_some_iff.2 ⟨isQuote, absent, rfl⟩, rfl, rfl⟩

/-- A key of links begins with a letter, and not as an identifier does. -/
theorem linkKey_shape {key : List Char} (isKey : key ∈ linkKeys) :
    ∃ c more, key = c :: more ∧ isBlank c = false ∧ c ≠ 'i' := by
  have each : ∀ key ∈ linkKeys, ∃ c more, key = c :: more ∧ isBlank c = false ∧ c ≠ 'i' := by
    simp [linkKeys, isBlank]
  exact each key isKey

theorem link?_eq_some {lead key name rest : List Char} {quote : Char} (blanks : AreBlanks lead)
    (isKey : key ∈ linkKeys) (isQuote : IsQuote quote) (absent : quote ∉ name) :
    link? (lead ++ key ++ ['=', quote, '#'] ++ (name ++ quote :: rest)) =
      some (.link lead key quote name, rest) := by
  obtain ⟨c, more, shape, isSolid, -⟩ := linkKey_shape isKey
  obtain ⟨front, back⟩ := takeWhile_isBlank blanks isSolid
    (more ++ ['=', quote, '#'] ++ (name ++ quote :: rest))
  have whole : lead ++ key ++ ['=', quote, '#'] ++ (name ++ quote :: rest) =
      lead ++ c :: (more ++ ['=', quote, '#'] ++ (name ++ quote :: rest)) := by simp [shape]
  have value : c :: (more ++ ['=', quote, '#'] ++ (name ++ quote :: rest)) =
      key ++ ['=', quote, '#'] ++ (name ++ quote :: rest) := by simp [shape]
  have found : linkBy? lead (key ++ ['=', quote, '#'] ++ (name ++ quote :: rest)) key =
      some (.link lead key quote name, rest) :=
    linkBy?_eq_some_iff.2 ⟨quote, name, isQuote, absent, rfl, rfl⟩
  rw [whole, link?, front, back, if_neg (by simpa using blanks.1), value]
  -- The one key is not the beginning of the other.
  rw [linkKeys, List.mem_cons, List.mem_singleton] at isKey
  rcases isKey with rfl | rfl
  · rw [linkKeys, List.findSome?_cons, found]
  · rw [linkKeys, List.findSome?_cons, List.findSome?_cons, found]
    rfl

theorem form_of_link? {text : List Char} {found : Token × List Char} (h : link? text = some found) :
    ∃ lead key quote name, AreBlanks lead ∧ key ∈ linkKeys ∧ IsQuote quote ∧ quote ∉ name ∧
      text = lead ++ key ++ ['=', quote, '#'] ++ (name ++ quote :: found.2) ∧
      found.1 = .link lead key quote name := by
  unfold link? at h
  dsimp only at h
  split at h
  · cases h
  · next nonempty =>
    obtain ⟨key, isKey, hfound⟩ := List.exists_of_findSome?_eq_some h
    obtain ⟨quote, name, isQuote, absent, rest, token⟩ := linkBy?_eq_some_iff.1 hfound
    refine ⟨text.takeWhile isBlank, key, quote, name,
      ⟨by simpa using nonempty, fun c => List.mem_takeWhile_imp⟩, isKey, isQuote, absent, ?_, token⟩
    conv => lhs; rw [← List.takeWhile_append_dropWhile (p := isBlank) (l := text), rest]
    simp

theorem address?_eq_some_iff {text rest : List Char} {token : Token} :
    address? text = some (token, rest) ↔
      ∃ name, ')' ∉ name ∧ text = "url(#".toList ++ (name ++ ')' :: rest) ∧
        token = .address name := by
  simp only [address?, Option.bind_eq_some_iff, Option.map_eq_some_iff, after?_eq_some_iff,
    Prod.exists, Prod.mk.injEq, until?_eq_some_iff]
  constructor
  · rintro ⟨_, rfl, name, _, ⟨absent, rfl⟩, rfl, rfl⟩
    exact ⟨name, absent, rfl, rfl⟩
  · rintro ⟨name, absent, rfl, rfl⟩
    exact ⟨_, rfl, name, rest, ⟨absent, rfl⟩, rfl, rfl⟩

/-! ### The next token -/

/-- The token with a name that a text begins with, and what follows it. -/
def named? (text : List Char) : Option (Token × List Char) :=
  ((id? text).or (link? text)).or (address? text)

theorem next_eq (c : Char) (rest : List Char) :
    next c rest = (named? (c :: rest)).getD (other c rest) := rfl

/-- A form reads back. -/
theorem named?_of_form (form : Form opening closer make) {name rest : List Char}
    (absent : closer ∉ name) :
    named? (opening ++ (name ++ closer :: rest)) = some (make name, rest) := by
  rw [named?]
  cases form with
  | id blanks isQuote => rw [id?_eq_some blanks isQuote absent]; rfl
  | @link lead key _ blanks isKey isQuote =>
    have noId : id? (lead ++ key ++ ['=', closer, '#'] ++ (name ++ closer :: rest)) = none := by
      obtain ⟨c, more, rfl, solid, other⟩ := linkKey_shape isKey
      simpa using id?_eq_none blanks solid other (more ++
        '=' :: closer :: '#' :: (name ++ closer :: rest))
    rw [noId, link?_eq_some blanks isKey isQuote absent]
    rfl
  | address =>
    rw [address?_eq_some_iff.2 ⟨name, absent, rfl, rfl⟩]
    rfl

theorem form_of_named? {text : List Char} {found : Token × List Char}
    (h : named? text = some found) :
    ∃ opening closer make name, Form opening closer make ∧ closer ∉ name ∧
      text = opening ++ (name ++ closer :: found.2) ∧ found.1 = make name := by
  rw [named?] at h
  rcases hid : id? text with _ | first
  · rcases hlink : link? text with _ | second
    · obtain ⟨name, absent, rest, token⟩ := address?_eq_some_iff.1 (by simpa [hid, hlink] using h)
      exact ⟨_, _, _, name, .address, absent, rest, token⟩
    · obtain rfl : second = found := by simpa [hid, hlink] using h
      obtain ⟨lead, key, quote, name, blanks, isKey, isQuote, absent, rest, token⟩ :=
        form_of_link? hlink
      exact ⟨_, _, _, name, .link blanks isKey isQuote, absent, rest, token⟩
  · obtain rfl : first = found := by simpa [hid] using h
    obtain ⟨lead, quote, name, blanks, isQuote, absent, rest, token⟩ := form_of_id? hid
    exact ⟨_, _, _, name, .id blanks isQuote, absent, rest, token⟩

theorem beginsNamed_iff {text : List Char} :
    BeginsNamed text ↔ ∃ found, named? text = some found := by
  constructor
  · rintro ⟨_, _, make, name, rest, form, absent, rfl⟩
    exact ⟨(make name, rest), named?_of_form form absent⟩
  · rintro ⟨⟨token, rest⟩, h⟩
    obtain ⟨opening, closer, make, name, form, absent, whole, -⟩ := form_of_named? h
    exact ⟨opening, closer, make, name, rest, form, absent, whole⟩

theorem BeginsNamed.mayBegin {c : Char} {rest : List Char} (begins : BeginsNamed (c :: rest)) :
    mayBegin c = true := by
  have blank : ∀ {c : Char}, isBlank c = true → Picture.mayBegin c = true := by
    intro c isBlank
    simp only [Picture.isBlank, Bool.or_eq_true, beq_iff_eq] at isBlank
    rcases isBlank with ((rfl | rfl) | rfl) | rfl <;> decide
  obtain ⟨_, _, _, _, _, form, _, whole⟩ := begins
  cases form with
  | id blanks _ =>
    obtain ⟨x, lead, rfl⟩ := List.exists_cons_of_ne_nil blanks.1
    exact (List.cons.inj whole).1 ▸ blank (blanks.2 x List.mem_cons_self)
  | link blanks _ _ =>
    obtain ⟨x, lead, rfl⟩ := List.exists_cons_of_ne_nil blanks.1
    exact (List.cons.inj whole).1 ▸ blank (blanks.2 x List.mem_cons_self)
  | address => exact (List.cons.inj whole).1 ▸ rfl

/-- A text that begins with a token of some form has it as its next token. -/
theorem next_of_form (form : Form opening closer make) {c : Char} {name rest left : List Char}
    (absent : closer ∉ name) (whole : c :: rest = opening ++ (name ++ closer :: left)) :
    next c rest = (make name, left) := by
  rw [next_eq, whole, named?_of_form form absent, Option.getD_some]

theorem next_of_not_beginsNamed {c : Char} {rest : List Char}
    (unnamed : ¬ BeginsNamed (c :: rest)) : next c rest = other c rest := by
  have nothing : named? (c :: rest) = none :=
    Option.eq_none_iff_forall_ne_some.2 fun found h => unnamed (beginsNamed_iff.2 ⟨found, h⟩)
  rw [next_eq, nothing, Option.getD_none]

/-- A text begins with a token of some form, or goes on with other text. -/
theorem next_cases (c : Char) (rest : List Char) :
    (∃ opening closer make name left, Form opening closer make ∧ closer ∉ name ∧
      c :: rest = opening ++ (name ++ closer :: left) ∧ next c rest = (make name, left)) ∨
    (¬ BeginsNamed (c :: rest) ∧ next c rest = other c rest) := by
  by_cases begins : BeginsNamed (c :: rest)
  · obtain ⟨opening, closer, make, name, left, form, absent, whole⟩ := begins
    exact .inl ⟨opening, closer, make, name, left, form, absent, whole,
      next_of_form form absent whole⟩
  · exact .inr ⟨begins, next_of_not_beginsNamed begins⟩

/-! ### Names that grow at their ends -/

variable {suffix : List Char}

/-- A suffix that closes no name. -/
def ClosesNothing (suffix : List Char) : Prop := ∀ c ∈ suffix, ¬ IsQuote c ∧ c ≠ ')'

/-- A text with a hyphen and a suffix in some places, each in front of a character. -/
inductive Extended (suffix : List Char) : List Char → List Char → Prop
  | nil : Extended suffix [] []
  | cons (c : Char) {text more : List Char} (behind : Extended suffix text more) :
    Extended suffix (c :: text) (c :: more)
  | insert (c : Char) {text more : List Char} (behind : Extended suffix text more) :
    Extended suffix (c :: text) ('-' :: suffix ++ c :: more)

namespace Extended

theorem refl (text : List Char) : Extended suffix text text := by
  induction text with
  | nil => exact .nil
  | cons c text ih => exact .cons c ih

theorem append {a b c d : List Char} (front : Extended suffix a b) (back : Extended suffix c d) :
    Extended suffix (a ++ c) (b ++ d) := by
  induction front with
  | nil => exact back
  | cons x _ ih => exact .cons x ih
  | insert x _ ih => simpa using Extended.insert x ih

/-- Where the longer text has no hyphen, it is the shorter one. -/
theorem of_append {text front more : List Char} (h : Extended suffix text (front ++ more))
    (noHyphen : '-' ∉ front) : ∃ rest, text = front ++ rest ∧ Extended suffix rest more := by
  induction front generalizing text with
  | nil => exact ⟨text, rfl, h⟩
  | cons c front ih =>
    obtain ⟨other, behind⟩ := not_or.1 (mt List.mem_cons.2 noHyphen)
    generalize whole : c :: front ++ more = longer at h
    cases h with
    | nil => cases whole
    | cons _ h =>
      obtain ⟨rfl, rfl⟩ := List.cons.inj whole
      obtain ⟨rest, rfl, inner⟩ := ih h behind
      exact ⟨rest, rfl, inner⟩
    | insert _ h => exact absurd (List.cons.inj whole).1.symm other

theorem mem_of_mem {text more : List Char} (h : Extended suffix text more) {c : Char}
    (hyphen : c ≠ '-') (absent : c ∉ suffix) (mem : c ∈ more) : c ∈ text := by
  induction h with
  | nil => exact mem
  | cons x _ ih =>
    rcases List.mem_cons.1 mem with rfl | inside
    · exact List.mem_cons_self
    · exact List.mem_cons_of_mem x (ih inside)
  | insert x _ ih =>
    rcases List.mem_append.1 mem with inserted | mem
    · exact absurd inserted (List.not_mem_cons_of_ne_of_not_mem hyphen absent)
    · rcases List.mem_cons.1 mem with rfl | inside
      · exact List.mem_cons_self
      · exact List.mem_cons_of_mem x (ih inside)

/-- A suffix that closes no name lets none begin. -/
theorem beginsNamed {text more : List Char} (h : Extended suffix text more)
    (plain : ClosesNothing suffix) (begins : BeginsNamed more) : BeginsNamed text := by
  obtain ⟨opening, closer, make, name, rest, form, absent, rfl⟩ := begins
  obtain ⟨inside, rfl, behind⟩ := h.of_append form.hyphen_not_mem_opening
  -- What closes the name is no part of what was put in, so the shorter text has it too.
  have closed : closer ∈ inside := behind.mem_of_mem form.closer_ne_hyphen
    (fun mem => form.closes.elim (plain closer mem).1 (plain closer mem).2) (by simp)
  obtain ⟨shorter, left, rfl, first⟩ := List.eq_append_cons_of_mem closed
  exact ⟨opening, closer, make, shorter, left, form, first, rfl⟩

end Extended

/-! ### The renamed text -/

/-- The text of some tokens under their new names. -/
def written (suffix : List Char) (items : List Token) : List Char :=
  items.flatMap fun token => (token.rename suffix).chars

theorem Form.extended (form : Form opening closer make) (name : List Char) :
    Extended suffix (make name).chars ((make name).rename suffix).chars := by
  rw [form.rename_make, form.chars_make, form.chars_make]
  have place : Extended suffix [closer] ('-' :: suffix ++ [closer]) := .insert closer .nil
  simpa using (Extended.refl (opening ++ name)).append place

theorem extended_rename_next (c : Char) (rest : List Char) :
    Extended suffix (next c rest).1.chars ((next c rest).1.rename suffix).chars := by
  rcases next_cases c rest with ⟨_, _, make, name, _, form, _, _, found⟩ | ⟨_, found⟩ <;> rw [found]
  · exact form.extended name
  · rw [other]
    split <;> exact .refl _

theorem extended_written (text : List Char) :
    Extended suffix text (written suffix (tokens text)) := by
  conv => arg 2; rw [← flatMap_chars_tokens text]
  fun_induction tokens text with
  | case1 => exact .nil
  | case2 c rest ih => exact (extended_rename_next c rest).append ih

/-- A token begins under its new name as it began before. -/
theorem head?_rename_next (c : Char) (rest more : List Char) :
    (((next c rest).1.rename suffix).chars ++ more).head? = some c := by
  rcases next_cases c rest with ⟨opening, _, make, name, _, form, _, whole, found⟩ |
      ⟨_, found⟩ <;> rw [found]
  · obtain ⟨first, behind, rfl⟩ := List.exists_cons_of_ne_nil form.opening_ne_nil
    rw [form.rename_make, form.chars_make, (List.cons.inj whole).1]
    rfl
  · rw [other]
    split <;> rfl

theorem head?_written (suffix text : List Char) :
    (written suffix (tokens text)).head? = text.head? := by
  cases text with
  | nil => rw [tokens]; rfl
  | cons c rest =>
    rw [tokens]
    exact head?_rename_next c rest _

theorem tokens_of_form (form : Form opening closer make) {name : List Char} (absent : closer ∉ name)
    (rest : List Char) :
    tokens (opening ++ (name ++ closer :: rest)) = make name :: tokens rest := by
  obtain ⟨c, behind, rfl⟩ := List.exists_cons_of_ne_nil form.opening_ne_nil
  have found : next c (behind ++ (name ++ closer :: rest)) = (make name, rest) :=
    next_of_form form absent rfl
  rw [List.cons_append, tokens, found]

/-- Other text runs up to where a token may begin. -/
theorem other_append {c : Char} {run more : List Char} (solid : ∀ x ∈ c :: run, mayBegin x = false)
    (stops : ∀ x ∈ more.head?, mayBegin x = true) :
    other c (run ++ more) = (.other (c :: run), more) := by
  obtain ⟨first, behind⟩ := List.forall_mem_cons.1 solid
  have inside : ∀ x ∈ run, (!mayBegin x) = true := fun x mem => by rw [behind x mem]; rfl
  rw [other, first, if_neg Bool.false_ne_true, List.takeWhile_append_of_pos inside,
    List.dropWhile_append_of_pos inside]
  cases more with
  | nil => simp
  | cons x more =>
    have begins : mayBegin x = true := stops x rfl
    simp [begins]

/-- Other text stays the same in front of what begins as the text behind it does. -/
theorem other_of_head? {c : Char} {rest more : List Char}
    (same : more.head? = (other c rest).2.head?) :
    ∃ text, (other c rest).1 = .other (c :: text) ∧
      other c (text ++ more) = (.other (c :: text), more) := by
  by_cases single : mayBegin c = true
  · exact ⟨[], by rw [other, if_pos single], by rw [other, if_pos single, List.nil_append]⟩
  · refine ⟨rest.takeWhile (!mayBegin ·), by rw [other, if_neg single], other_append ?_ ?_⟩
    · refine List.forall_mem_cons.2 ⟨by simpa using single, fun x mem => ?_⟩
      simpa using List.mem_takeWhile_imp mem
    · intro x first
      have kept := List.head?_dropWhile_not (!mayBegin ·) rest
      rw [other, if_neg single] at same
      rw [← same, Option.mem_def.1 first] at kept
      simpa using kept

/-- A text that does not begin as tokens do is other text, up to where one may begin. -/
theorem tokens_of_other {c : Char} {run more : List Char}
    (solid : ∀ x ∈ c :: run, mayBegin x = false) (stops : ∀ x ∈ more.head?, mayBegin x = true) :
    tokens (c :: run ++ more) = .other (c :: run) :: tokens more := by
  have unnamed : ¬ BeginsNamed (c :: (run ++ more)) := fun begins =>
    absurd begins.mayBegin (by rw [(List.forall_mem_cons.1 solid).1]; exact Bool.false_ne_true)
  rw [List.cons_append, tokens, next_of_not_beginsNamed unnamed, other_append solid stops]

/-- **The tokens of a text under new names are the tokens of the text, under their new names.** -/
theorem tokens_written (plain : ClosesNothing suffix) (text : List Char) :
    tokens (written suffix (tokens text)) = (tokens text).map (Token.rename suffix) := by
  fun_induction tokens text with
  | case1 => rw [written, List.flatMap_nil, tokens, List.map_nil]
  | case2 c rest ih =>
    rw [written, List.flatMap_cons, ← written, List.map_cons, ← ih]
    rcases next_cases c rest with ⟨_, closer, make, name, left, form, absent, -, found⟩ |
        ⟨unnamed, found⟩ <;>
      rw [found]
    · have absent' : closer ∉ name ++ '-' :: suffix := by
        have outside : closer ∉ suffix := fun mem =>
          form.closes.elim (plain closer mem).1 (plain closer mem).2
        simp [absent, outside, form.closer_ne_hyphen]
      rw [form.rename_make, form.chars_make, ← tokens_of_form form absent']
      simp
    · obtain ⟨text, token, again⟩ := other_of_head? (head?_written suffix (other c rest).2)
      have whole : c :: rest = c :: text ++ (other c rest).2 := by
        rw [← (chars_other c rest).1, token, Token.chars_other]
      have still : ¬ BeginsNamed (c :: (text ++ written suffix (tokens (other c rest).2))) := by
        refine fun begins => unnamed (Extended.beginsNamed ?_ plain begins)
        rw [whole]
        exact (Extended.refl (c :: text)).append (extended_written _)
      rw [token, Token.rename, Token.chars_other, List.cons_append, tokens,
        next_of_not_beginsNamed still, again]

end SceneMarkup.Picture
