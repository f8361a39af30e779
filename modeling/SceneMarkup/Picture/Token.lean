import SceneMarkup.Unicode.WhiteSpace

/-!
# Tokens of a picture

A picture is SVG text. Its identifiers and the references to them are tokens, all else is copied.

* `Token`: an identifier, a reference by link or by address, or other text;
* `Token.chars`: the text of a token;
* `Token.rename`: a token whose name has a suffix;
* `tokens`: the tokens of a text, which make up the text (`flatMap_chars_tokens`).

An identifier and a link count only after a blank, so that no other attribute ends like them. A
token that is not closed is other text.
-/

namespace SceneMarkup.Picture

/-- A blank between attributes. -/
def isBlank (c : Char) : Bool := c == ' ' || c == '\t' || c == '\r' || c == '\n'

/-- Other text runs up to a character that may begin a token: white space of any kind, or the first
letter of an address. -/
def mayBegin (c : Char) : Bool := Unicode.isWhiteSpace c || c == 'u'

/-- One scanned piece. -/
inductive Token where
  /-- Blanks, and an identifier in quotes. -/
  | id (lead : List Char) (quote : Char) (name : List Char)
  /-- Blanks, and a link in quotes to an identifier. -/
  | link (lead key : List Char) (quote : Char) (name : List Char)
  /-- The address of an identifier. -/
  | address (name : List Char)
  | other (text : List Char)
  deriving DecidableEq, Repr

namespace Token

/-- The text of a token. -/
def chars : Token → List Char
  | id lead quote name => lead ++ "id=".toList ++ quote :: name ++ [quote]
  | link lead key quote name => lead ++ key ++ '=' :: quote :: '#' :: name ++ [quote]
  | address name => "url(#".toList ++ name ++ [')']
  | other text => text

@[simp] theorem chars_id (lead : List Char) (quote : Char) (name : List Char) :
    (id lead quote name).chars = lead ++ "id=".toList ++ quote :: name ++ [quote] := rfl

@[simp] theorem chars_link (lead key : List Char) (quote : Char) (name : List Char) :
    (link lead key quote name).chars = lead ++ key ++ '=' :: quote :: '#' :: name ++ [quote] := rfl

@[simp] theorem chars_address (name : List Char) :
    (address name).chars = "url(#".toList ++ name ++ [')'] := rfl

@[simp] theorem chars_other (text : List Char) : (other text).chars = text := rfl

/-- The token with a suffix to its name, if it has one. -/
def rename (suffix : List Char) : Token → Token
  | id lead quote name => id lead quote (name ++ '-' :: suffix)
  | link lead key quote name => link lead key quote (name ++ '-' :: suffix)
  | address name => address (name ++ '-' :: suffix)
  | other text => other text

end Token

/-- What follows a text at the beginning of another one. -/
def after? : List Char → List Char → Option (List Char)
  | [], text => some text
  | _ :: _, [] => none
  | p :: pattern, c :: text => if p = c then after? pattern text else none

theorem append_of_after? {pattern text rest : List Char} (h : after? pattern text = some rest) :
    pattern ++ rest = text := by
  fun_induction after? pattern text with
  | case1 => simpa using h.symm
  | case2 => cases h
  | case3 p pattern text ih => rw [List.cons_append, ih h]
  | case4 => cases h

/-- A text up to a character, and what follows that one. -/
def until? (stop : Char) : List Char → Option (List Char × List Char)
  | [] => none
  | c :: text =>
    if c = stop then some ([], text)
    else (until? stop text).map fun found => (c :: found.1, found.2)

theorem append_of_until? {stop : Char} {text name rest : List Char}
    (h : until? stop text = some (name, rest)) : name ++ stop :: rest = text := by
  induction text generalizing name rest with
  | nil => cases h
  | cons c text ih =>
    unfold until? at h
    split at h
    · next same => cases h; rw [same, List.nil_append]
    · obtain ⟨⟨found, left⟩, hfound, heq⟩ := Option.map_eq_some_iff.1 h
      cases heq
      rw [List.cons_append, ih hfound]

/-- A quote, what it quotes after a mark, and what follows. -/
def quoted? (mark : List Char) : List Char → Option (Char × List Char × List Char)
  | quote :: text =>
    if quote = '\x22' ∨ quote = '\x27' then
      (after? mark text).bind fun inside => (until? quote inside).map fun found => (quote, found)
    else none
  | [] => none

theorem append_of_quoted? {mark text : List Char} {found : Char × List Char × List Char}
    (h : quoted? mark text = some found) :
    found.1 :: mark ++ found.2.1 ++ found.1 :: found.2.2 = text := by
  cases text with
  | nil => cases h
  | cons quote text =>
    rw [quoted?] at h
    split at h
    · obtain ⟨inside, hinside, hfound⟩ := Option.bind_eq_some_iff.1 h
      obtain ⟨inner, hinner, rfl⟩ := Option.map_eq_some_iff.1 hfound
      rw [← append_of_after? hinside, ← append_of_until? hinner]
      simp
    · cases h

/-- An identifier at the beginning of a text. -/
def id? (text : List Char) : Option (Token × List Char) :=
  let lead := text.takeWhile isBlank
  if lead.isEmpty then none
  else
    (after? "id=".toList (text.dropWhile isBlank)).bind fun value =>
      (quoted? [] value).map fun found => (.id lead found.1 found.2.1, found.2.2)

theorem chars_of_id? {text : List Char} {found : Token × List Char} (h : id? text = some found) :
    found.1.chars ++ found.2 = text ∧ found.1.chars ≠ [] := by
  unfold id? at h
  dsimp only at h
  split at h
  · cases h
  · obtain ⟨value, hvalue, hfound⟩ := Option.bind_eq_some_iff.1 h
    obtain ⟨inner, hinner, rfl⟩ := Option.map_eq_some_iff.1 hfound
    refine ⟨?_, by simp⟩
    conv => rhs; rw [← List.takeWhile_append_dropWhile (p := isBlank) (l := text)]
    rw [← append_of_after? hvalue, ← append_of_quoted? hinner]
    simp

/-- The two keys of links. -/
def linkKeys : List (List Char) := ["xlink:href".toList, "href".toList]

/-- A link of some key, at the beginning of a text after its blanks. -/
def linkBy? (lead text key : List Char) : Option (Token × List Char) :=
  (after? (key ++ ['=']) text).bind fun value =>
    (quoted? ['#'] value).map fun found => (.link lead key found.1 found.2.1, found.2.2)

/-- A link at the beginning of a text. -/
def link? (text : List Char) : Option (Token × List Char) :=
  let lead := text.takeWhile isBlank
  if lead.isEmpty then none
  else linkKeys.findSome? (linkBy? lead (text.dropWhile isBlank))

theorem chars_of_link? {text : List Char} {found : Token × List Char}
    (h : link? text = some found) : found.1.chars ++ found.2 = text ∧ found.1.chars ≠ [] := by
  unfold link? at h
  dsimp only at h
  split at h
  · cases h
  · obtain ⟨key, _, hkey⟩ := List.exists_of_findSome?_eq_some h
    obtain ⟨value, hvalue, hfound⟩ := Option.bind_eq_some_iff.1 hkey
    obtain ⟨inner, hinner, rfl⟩ := Option.map_eq_some_iff.1 hfound
    refine ⟨?_, by simp⟩
    conv => rhs; rw [← List.takeWhile_append_dropWhile (p := isBlank) (l := text)]
    rw [← append_of_after? hvalue, ← append_of_quoted? hinner]
    simp

/-- An address at the beginning of a text. -/
def address? (text : List Char) : Option (Token × List Char) :=
  (after? "url(#".toList text).bind fun inside =>
    (until? ')' inside).map fun found => (.address found.1, found.2)

theorem chars_of_address? {text : List Char} {found : Token × List Char}
    (h : address? text = some found) : found.1.chars ++ found.2 = text ∧ found.1.chars ≠ [] := by
  obtain ⟨inside, hinside, hfound⟩ := Option.bind_eq_some_iff.1 h
  obtain ⟨inner, hinner, rfl⟩ := Option.map_eq_some_iff.1 hfound
  refine ⟨?_, by simp⟩
  rw [← append_of_after? hinside, ← append_of_until? hinner]
  simp

/-- Other text: up to where a token may begin, and one character at least. -/
def other (c : Char) (rest : List Char) : Token × List Char :=
  if mayBegin c then (.other [c], rest)
  else (.other (c :: rest.takeWhile (!mayBegin ·)), rest.dropWhile (!mayBegin ·))

theorem chars_other (c : Char) (rest : List Char) :
    (other c rest).1.chars ++ (other c rest).2 = c :: rest ∧ (other c rest).1.chars ≠ [] := by
  unfold other
  split <;> simp

/-- The token at the beginning of a text that is not empty, and what follows it. -/
def next (c : Char) (rest : List Char) : Token × List Char :=
  (((id? (c :: rest)).or (link? (c :: rest))).or (address? (c :: rest))).getD (other c rest)

theorem chars_next (c : Char) (rest : List Char) :
    (next c rest).1.chars ++ (next c rest).2 = c :: rest ∧ (next c rest).1.chars ≠ [] := by
  unfold next
  rcases hid : id? (c :: rest) with _ | found
  · rcases hlink : link? (c :: rest) with _ | found
    · rcases haddress : address? (c :: rest) with _ | found
      · exact chars_other c rest
      · exact chars_of_address? haddress
    · exact chars_of_link? hlink
  · exact chars_of_id? hid

/-- Every token is taken from the text. -/
theorem length_next (c : Char) (rest : List Char) : (next c rest).2.length ≤ rest.length := by
  obtain ⟨whole, ne⟩ := chars_next c rest
  have length := congrArg List.length whole
  have positive := List.length_pos_iff.2 ne
  rw [List.length_append, List.length_cons] at length
  omega

/-- The tokens of a text. -/
def tokens : List Char → List Token
  | [] => []
  | c :: rest => (next c rest).1 :: tokens (next c rest).2
termination_by text => text.length
decreasing_by
  have := length_next c rest
  simp only [List.length_cons]
  omega

/-- The tokens of a text make up the text. -/
theorem flatMap_chars_tokens (text : List Char) : (tokens text).flatMap Token.chars = text := by
  fun_induction tokens text with
  | case1 => rfl
  | case2 c rest ih => rw [List.flatMap_cons, ih, (chars_next c rest).1]

end SceneMarkup.Picture
