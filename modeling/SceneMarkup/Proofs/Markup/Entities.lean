import SceneMarkup.Proofs.Markup.Escape

/-!
# Entities stand for the characters that they were written for

A reader goes through a text from left to right and takes every entity for its character. No text,
whatever it looks like, is taken for another one once it is escaped.

* `decode`: what such a reader takes from a text;
* `decode_escapeChars_append`: an escaped text is read as the text, whatever follows it;
* `EntityFollows`, `entityFollows_of_ampersand`: every ampersand in an escaped text begins the
  entity of a character of the text;
* `entity?_eq_none_of_mem`: no other reserved character is left;
* `EscapesBack`, `escaping_reads_back`: **escaping is safe, reads back, and treats texts piece by
  piece.**
-/

namespace SceneMarkup.Escape

/-- What is read from a text: an entity stands for its character, any other character for itself. -/
def decode : List Char → List Char
  | [] => []
  | c :: rest =>
    match entities.find? fun entry => entry.2.toList.isPrefixOf (c :: rest) with
    | some entry => entry.1 :: decode (rest.drop (entry.2.length - 1))
    | none => c :: decode rest
termination_by text => text.length
decreasing_by
  all_goals
    simp only [List.length_cons, List.length_drop]
    omega

@[simp] theorem decode_nil : decode [] = [] := by
  rw [decode]

/-- Two entities of which one begins with the other are the same. -/
theorem eq_of_prefix_entity :
    ∀ p ∈ entities, ∀ q ∈ entities, p.2.toList <+: q.2.toList → p = q := by
  decide

theorem ampersand_not_mem_tail : ∀ p ∈ entities, '&' ∉ p.2.toList.tail := by
  decide

/-- An entity is read as its character. -/
theorem decode_entity {entry : Char × String} (listed : entry ∈ entities) (rest : List Char) :
    decode (entry.2.toList ++ rest) = entry.1 :: decode rest := by
  obtain ⟨tail, shape⟩ := List.head?_eq_some_iff.1 (head?_entity entry listed)
  have found : (entities.find? fun other => other.2.toList.isPrefixOf (entry.2.toList ++ rest)) =
      some entry := by
    have begins : entry.2.toList <+: entry.2.toList ++ rest := List.prefix_append _ _
    cases result : entities.find? fun other =>
      other.2.toList.isPrefixOf (entry.2.toList ++ rest) with
    | none =>
      exact absurd (List.isPrefixOf_iff_prefix.2 begins) (List.find?_eq_none.1 result entry listed)
    | some other =>
      -- Whatever entity the text begins with, one of the two begins with the other.
      have listed' := List.mem_of_find?_eq_some result
      have begins' : other.2.toList <+: entry.2.toList ++ rest := by
        simpa using List.find?_some result
      rcases List.prefix_or_prefix_of_prefix begins begins' with shorter | longer
      · rw [eq_of_prefix_entity entry listed other listed' shorter]
      · rw [eq_of_prefix_entity other listed' entry listed longer]
  have length : entry.2.length - 1 = tail.length := by
    rw [← String.length_toList, shape, List.length_cons, Nat.add_sub_cancel]
  rw [shape, List.cons_append] at found ⊢
  rw [decode, found]
  simp [length]

/-- What begins no entity is read as itself. -/
theorem decode_cons_of_ne {c : Char} (plain : c ≠ '&') (rest : List Char) :
    decode (c :: rest) = c :: decode rest := by
  have absent : (entities.find? fun entry => entry.2.toList.isPrefixOf (c :: rest)) = none := by
    refine List.find?_eq_none.2 fun entry listed begins => plain ?_
    obtain ⟨tail, shape⟩ := List.head?_eq_some_iff.1 (head?_entity entry listed)
    rw [List.isPrefixOf_iff_prefix, shape, List.cons_prefix_cons] at begins
    exact begins.1.symm
  rw [decode, absent]

variable {dialect : Dialect}

/-! ### Escaped texts -/

theorem escapeChar_of_none {c : Char} (h : entity? dialect c = none) :
    escapeChar dialect c = [c] := by
  rw [escapeChar, h]

@[simp] theorem escapeChars_nil : escapeChars dialect [] = [] := rfl

@[simp] theorem escapeChars_cons (c : Char) (text : List Char) :
    escapeChars dialect (c :: text) = escapeChar dialect c ++ escapeChars dialect text :=
  List.flatMap_cons

theorem ne_ampersand_of_none {c : Char} (h : entity? dialect c = none) : c ≠ '&' := by
  rintro rfl
  cases h

/-- What is written for a character is read as the character. -/
theorem decode_escapeChar_append (c : Char) (rest : List Char) :
    decode (escapeChar dialect c ++ rest) = c :: decode rest := by
  cases h : entity? dialect c with
  | some entity => rw [escapeChar_of_some h, decode_entity (mem_entities h)]
  | none =>
    rw [escapeChar_of_none h, List.singleton_append]
    exact decode_cons_of_ne (ne_ampersand_of_none h) rest

/-- An escaped text is read as the text, whatever follows it. -/
theorem decode_escapeChars_append (dialect : Dialect) (text rest : List Char) :
    decode (escapeChars dialect text ++ rest) = text ++ decode rest := by
  induction text with
  | nil => rfl
  | cons c text ih =>
    rw [escapeChars_cons, List.append_assoc, decode_escapeChar_append, ih, List.cons_append]

theorem decode_escapeChars (dialect : Dialect) (text : List Char) :
    decode (escapeChars dialect text) = text := by
  simpa using decode_escapeChars_append dialect text []

/-! ### What is left in an escaped text -/

/-- What is written for a character has an ampersand at its beginning, if at all. -/
theorem eq_nil_of_escapeChar_eq {c : Char} {front behind : List Char}
    (h : escapeChar dialect c = front ++ '&' :: behind) :
    front = [] ∧ ∃ entity, entity? dialect c = some entity := by
  cases special : entity? dialect c with
  | some entity =>
    refine ⟨?_, entity, rfl⟩
    cases front with
    | nil => rfl
    | cons first front =>
      rw [escapeChar_of_some special] at h
      have inside : '&' ∈ entity.toList.tail := by simp [h]
      exact absurd inside (ampersand_not_mem_tail _ (mem_entities special))
  | none =>
    rw [escapeChar_of_none special] at h
    have same : '&' ∈ [c] := by simp [h]
    exact absurd (List.mem_singleton.1 same).symm (ne_ampersand_of_none special)

/-- What stands behind a part of an escaped text is the entity of a character of the text: what is
in front of it is written for what is in front of that character, and what follows the entity for
what follows the character. -/
def EntityFollows (dialect : Dialect) (text front behind : List Char) : Prop :=
  ∃ before c after entity, text = before ++ c :: after ∧ entity? dialect c = some entity ∧
    front = escapeChars dialect before ∧ behind = entity.toList ++ escapeChars dialect after

theorem EntityFollows.cons {text front behind : List Char}
    (h : EntityFollows dialect text front behind) (c : Char) :
    EntityFollows dialect (c :: text) (escapeChar dialect c ++ front) behind := by
  obtain ⟨before, d, after, entity, rfl, special, rfl, whole⟩ := h
  exact ⟨c :: before, d, after, entity, rfl, special, (escapeChars_cons c before).symm, whole⟩

/-- Every ampersand in an escaped text begins the entity of a character of the text. -/
theorem entityFollows_of_ampersand {text front behind : List Char}
    (h : escapeChars dialect text = front ++ '&' :: behind) :
    EntityFollows dialect text front ('&' :: behind) := by
  induction text generalizing front with
  | nil => simp at h
  | cons c rest ih =>
    rw [escapeChars_cons] at h
    rcases List.append_eq_append_iff.1 h with ⟨front', rfl, later⟩ | ⟨inner, isFirst, whole⟩
    · exact (ih later).cons c
    · cases inner with
      | nil =>
        rw [List.append_nil] at isFirst
        have later : escapeChars dialect rest = [] ++ '&' :: behind := whole.symm
        have follows := (ih later).cons c
        rwa [List.append_nil, isFirst] at follows
      | cons mark inner =>
        -- The ampersand is in what is written for the first character.
        obtain ⟨rfl, -⟩ := List.cons.inj whole
        obtain ⟨rfl, entity, special⟩ := eq_nil_of_escapeChar_eq isFirst
        refine ⟨[], c, rest, entity, rfl, special, rfl, ?_⟩
        rw [← escapeChar_of_some special, isFirst, List.nil_append]
        exact whole

/-- A dialect reserves some of the characters that have entities. -/
theorem mem_of_entity?_ne_none {c : Char} (h : entity? dialect c ≠ none) :
    c ∈ entities.map Prod.fst := by
  obtain ⟨entity, special⟩ := Option.ne_none_iff_exists'.1 h
  exact List.mem_map_of_mem (mem_entities special)

/-- Of the reserved characters only the ampersand is written, at the beginning of entities. -/
theorem entity?_eq_none_of_mem {text : List Char} {c : Char} (mem : c ∈ escapeChars dialect text)
    (other : c ≠ '&') : entity? dialect c = none := by
  have inEntity : ∀ entry ∈ entities, entry.2.toList.Forall fun d =>
      d = '&' ∨ d ∉ entities.map Prod.fst := by
    decide
  obtain ⟨d, -, written⟩ := List.mem_flatMap.1 mem
  by_contra reserved
  cases special : entity? dialect d with
  | some entity =>
    rw [escapeChar_of_some special] at written
    have either := List.forall_iff_forall_mem.1 (inEntity _ (mem_entities special)) c written
    exact either.elim other fun plain => plain (mem_of_entity?_ne_none reserved)
  | none =>
    rw [escapeChar_of_none special, List.mem_singleton] at written
    exact reserved (written ▸ special)

/-! ### The main statement -/

/-- How a text is escaped: safely, and so that it reads back. -/
structure EscapesBack (dialect : Dialect) (text : String) : Prop where
  /-- No bracket and no quote is left. -/
  safe : ∀ c ∈ ['<', '>', '"', '\x27'], c ∉ (escape dialect text).toList
  /-- In JSX no brace is left. -/
  unbraced : dialect = .jsx → ∀ c ∈ ['\x7b', '\x7d'], c ∉ (escape dialect text).toList
  /-- Every ampersand begins the entity of a character of the text. -/
  marked : ∀ front behind, (escape dialect text).toList = front ++ '&' :: behind →
    EntityFollows dialect text.toList front ('&' :: behind)
  decoded : String.ofList (decode (escape dialect text).toList) = text

theorem escapesBack (dialect : Dialect) (text : String) : EscapesBack dialect text := by
  have absent : ∀ c, c ≠ '&' → entity? dialect c ≠ none → c ∉ (escape dialect text).toList := by
    intro c other reserved mem
    rw [escape, String.toList_ofList] at mem
    exact reserved (entity?_eq_none_of_mem mem other)
  constructor
  · have reserved : ['<', '>', '"', '\x27'].Forall fun c => c ≠ '&' ∧ entity? dialect c ≠ none := by
      cases dialect <;> decide
    rw [List.forall_iff_forall_mem] at reserved
    exact fun c mem => absent c (reserved c mem).1 (reserved c mem).2
  · rintro rfl
    have reserved : ['\x7b', '\x7d'].Forall fun c => c ≠ '&' ∧ entity? .jsx c ≠ none := by decide
    rw [List.forall_iff_forall_mem] at reserved
    exact fun c mem => absent c (reserved c mem).1 (reserved c mem).2
  · intro front behind whole
    rw [escape, String.toList_ofList] at whole
    exact entityFollows_of_ampersand whole
  · rw [escape, String.toList_ofList, decode_escapeChars, String.ofList_toList]

/-- **Escaping is safe and reads back.** Every text is escaped without a bracket, a quote or, in
JSX, a brace, every ampersand begins one of the entities that are written, and a reader gets the
text again, which may look escaped itself. Two texts one after the other are escaped one after the
other, and read so. -/
theorem escaping_reads_back (dialect : Dialect) (text more : String) :
    EscapesBack dialect text ∧ escape dialect (text ++ more) =
      escape dialect text ++ escape dialect more ∧
      String.ofList (decode (escape dialect text ++ escape dialect more).toList) =
        text ++ more := by
  have pieces : escape dialect (text ++ more) = escape dialect text ++ escape dialect more := by
    simp only [escape, String.toList_append, escapeChars_append, String.ofList_append]
  exact ⟨escapesBack dialect text, pieces, pieces ▸ (escapesBack dialect (text ++ more)).decoded⟩

end SceneMarkup.Escape
