import SceneMarkup.Proofs.Css.Lines
import SceneMarkup.Proofs.Stylesheet.Order
import SceneMarkup.Proofs.Text.Pieces

/-!
# Style text reads back

Style text is read line by line: the line of a class, the lines of its body, each indented by two
blanks, and a closing brace, with a blank line between every two rules.

* `Entry`, `Rule.entry`: a class and the lines of its body;
* `Place`, `readFrom`, `readRules`: where a reader stands, what it reads from there on, and what it
  reads in a text;
* `readFrom_ruleLines`: the lines of a rule read back;
* `isOneLine_of_readFrom`: what is read is on one line;
* `readRules_css_iff`: so the rules of a registry read back if and only if no name and no line is
  broken.
-/

namespace SceneMarkup

open Text (pieces pieces_append_cons pieces_of_forall_not mem_of_mem_pieces)

/-- A class and the lines of its body, as they are read. -/
structure Entry where
  className : String
  body : List String
  deriving DecidableEq, Repr

/-- A rule as it should be read. -/
def Rule.entry (rule : Rule) : Entry := ⟨rule.className, rule.body⟩

namespace Css

/-- The class of a line that opens a rule: behind a dot, in front of a blank and a brace. -/
def openedClass? : List Char → Option String
  | '.' :: rest =>
    if [' ', '\x7b'].isSuffixOf rest then some (String.ofList rest.dropLast.dropLast) else none
  | _ => none

/-- The text of a line that is indented by two blanks. -/
def indented? : List Char → Option String
  | ' ' :: ' ' :: rest => some (String.ofList rest)
  | _ => none

/-- Where a reader stands: in front of a rule, in the body of one, or behind one. -/
inductive Place where
  | front
  | body (className : String) (lines : List String)
  | behind
  deriving DecidableEq, Repr

/-- What is read from a place on. Behind the last rule nothing is left; behind any other a blank
line is. -/
def readFrom : Place → List (List Char) → Option (List Entry)
  | .front, line :: rest =>
    (openedClass? line).bind fun className => readFrom (.body className []) rest
  | .body className lines, line :: rest =>
    if line = ['\x7d'] then (readFrom .behind rest).map (⟨className, lines⟩ :: ·)
    else (indented? line).bind fun text => readFrom (.body className (lines ++ [text])) rest
  | .behind, line :: rest =>
    if line = [] then if rest = [] then some [] else readFrom .front rest else none
  | _, [] => none

/-- The rules that are read in a text, if it is style text. -/
def readRules (text : String) : Option (List Entry) :=
  if text = "" then some [] else readFrom .front (pieces (· == '\n') text.toList)

/-! ### The lines of a rule -/

/-- The line that opens the rule of a class. -/
def opening (className : String) : List Char := '.' :: (className.toList ++ [' ', '\x7b'])

/-- A line of a body. -/
def indented (line : String) : List Char := ' ' :: ' ' :: line.toList

/-- The lines that are written for a rule. -/
def ruleLines (rule : Rule) : List (List Char) :=
  opening rule.className :: rule.body.map indented ++ [['\x7d']]

theorem openedClass?_opening (className : String) :
    openedClass? (opening className) = some className := by
  have isSuffix : [' ', '\x7b'].isSuffixOf (className.toList ++ [' ', '\x7b']) = true :=
    List.isSuffixOf_iff_suffix.2 (List.suffix_append _ _)
  have name : (className.toList ++ [' ', '\x7b']).dropLast.dropLast = className.toList := by
    simp [List.dropLast_append_of_ne_nil]
  rw [opening, openedClass?, if_pos isSuffix, name, String.ofList_toList]

theorem indented?_indented (line : String) : indented? (indented line) = some line := by
  rw [indented, indented?, String.ofList_toList]

/-- The lines of a body are added to those that were read. -/
theorem readFrom_body (className : String) (lines body : List String) (rest : List (List Char)) :
    readFrom (.body className lines) (body.map indented ++ ['\x7d'] :: rest) =
      (readFrom .behind rest).map (⟨className, lines ++ body⟩ :: ·) := by
  induction body generalizing lines with
  | nil => simp [readFrom]
  | cons line body ih =>
    have inner : indented line ≠ ['\x7d'] := by simp [indented]
    rw [List.map_cons, List.cons_append, readFrom, if_neg inner, indented?_indented,
      Option.bind_some, ih, List.append_assoc, List.singleton_append]

/-- **The lines of a rule read back.** -/
theorem readFrom_ruleLines (rule : Rule) (rest : List (List Char)) :
    readFrom .front (ruleLines rule ++ rest) = (readFrom .behind rest).map (rule.entry :: ·) := by
  rw [ruleLines, List.append_assoc, List.cons_append, readFrom, openedClass?_opening,
    Option.bind_some, List.singleton_append, readFrom_body, List.nil_append]
  rfl

/-! ### The lines of a text -/

/-- A line that is not broken is a piece of the text. -/
theorem pieces_line {line : List Char} (one : '\n' ∉ line) (rest : List Char) :
    pieces (· == '\n') (line ++ '\n' :: rest) = line :: pieces (· == '\n') rest := by
  have noFeed : ∀ c ∈ line, (c == '\n') = false := by
    intro c mem
    rw [beq_eq_false_iff_ne]
    rintro rfl
    exact one mem
  rw [pieces_append_cons rfl, pieces_of_forall_not noFeed, List.singleton_append]

/-- The lines of a body that is not broken are pieces of the text. -/
theorem pieces_body {body : List String} (one : ∀ line ∈ body, IsOneLine line) (rest : List Char) :
    pieces (· == '\n') ((body.flatMap fun line => indented line ++ ['\n']) ++ rest) =
      body.map indented ++ pieces (· == '\n') rest := by
  induction body with
  | nil => rfl
  | cons line body ih =>
    obtain ⟨here, others⟩ := List.forall_mem_cons.1 one
    have whole : '\n' ∉ indented line := by simpa [indented, IsOneLine] using here
    have split : ((line :: body).flatMap fun line => indented line ++ ['\n']) ++ rest =
        indented line ++ '\n' :: ((body.flatMap fun line => indented line ++ ['\n']) ++ rest) := by
      simp
    rw [split, pieces_line whole, ih others, List.map_cons, List.cons_append]

/-- The text of a rule by its characters. -/
theorem toList_text (rule : Rule) :
    rule.text.toList = opening rule.className ++ '\n' ::
      ((rule.body.flatMap fun line => indented line ++ ['\n']) ++ ['\x7d', '\n']) := by
  have body : (String.join (rule.body.map fun line => "  " ++ line ++ "\n")).toList =
      rule.body.flatMap fun line => indented line ++ ['\n'] := by
    rw [String.toList_join, List.flatMap_map]
    simp [indented]
  simp [Rule.text, opening, body]

/-- A rule none of whose lines is broken is written on its lines. -/
theorem pieces_text {rule : Rule} (name : IsOneLine rule.className)
    (one : ∀ line ∈ rule.body, IsOneLine line) (rest : List Char) :
    pieces (· == '\n') (rule.text.toList ++ rest) = ruleLines rule ++ pieces (· == '\n') rest := by
  have whole : '\n' ∉ opening rule.className := by simpa [opening, IsOneLine] using name
  have split : rule.text.toList ++ rest = opening rule.className ++ '\n' ::
      ((rule.body.flatMap fun line => indented line ++ ['\n']) ++ (['\x7d'] ++ '\n' :: rest)) := by
    rw [toList_text]
    simp
  rw [split, pieces_line whole, pieces_body one, pieces_line (by decide), ruleLines]
  simp

/-! ### The rules of a text -/

/-- Rules none of whose lines is broken read back. -/
theorem readFrom_front_rules {rules : List Rule} (nonempty : rules ≠ [])
    (whole : ∀ rule ∈ rules, IsOneLine rule.className ∧ ∀ line ∈ rule.body, IsOneLine line) :
    readFrom .front (pieces (· == '\n') ("\n".intercalate (rules.map Rule.text)).toList) =
      Option.some (rules.map Rule.entry) := by
  induction rules with
  | nil => exact absurd rfl nonempty
  | cons rule rest ih =>
    obtain ⟨⟨name, one⟩, others⟩ := List.forall_mem_cons.1 whole
    by_cases last : rest = []
    · have alone := pieces_text name one []
      rw [List.append_nil] at alone
      rw [last, List.map_singleton, String.intercalate_singleton, alone, readFrom_ruleLines]
      rfl
    · have more : rest.map Rule.text ≠ [] := mt List.map_eq_nil_iff.1 last
      rw [List.map_cons, String.intercalate_cons_of_ne_nil more, String.toList_append,
        String.toList_append, List.append_assoc, pieces_text name one, readFrom_ruleLines]
      -- A blank line leads from a rule to the next.
      have blank := pieces_line List.not_mem_nil ("\n".intercalate (rest.map Rule.text)).toList
      have left := Text.pieces_ne_nil (· == '\n') ("\n".intercalate (rest.map Rule.text)).toList
      rw [List.nil_append] at blank
      rw [show "\n".toList = ['\n'] from rfl, List.singleton_append, blank, readFrom, if_pos rfl,
        if_neg left, ih last others]
      rfl

theorem isOneLine_of_openedClass? {line : List Char} {className : String}
    (h : openedClass? line = some className) (one : '\n' ∉ line) : IsOneLine className := by
  unfold openedClass? at h
  split at h
  · next rest =>
    split at h
    · obtain rfl := Option.some.inj h
      intro broken
      rw [String.toList_ofList] at broken
      exact one (List.mem_cons_of_mem _ (List.dropLast_subset _ (List.dropLast_subset _ broken)))
    · cases h
  · cases h

theorem isOneLine_of_indented? {line : List Char} {text : String} (h : indented? line = some text)
    (one : '\n' ∉ line) : IsOneLine text := by
  unfold indented? at h
  split at h
  · obtain rfl := Option.some.inj h
    intro broken
    rw [String.toList_ofList] at broken
    exact one (List.mem_cons_of_mem _ (List.mem_cons_of_mem _ broken))
  · cases h

/-- What is read is on one line if the lines that are read are. -/
theorem isOneLine_of_readFrom {lines : List (List Char)} (one : ∀ line ∈ lines, '\n' ∉ line) :
    ∀ {place : Place} {entries : List Entry}, readFrom place lines = some entries →
      (∀ className sofar, place = .body className sofar →
        IsOneLine className ∧ ∀ line ∈ sofar, IsOneLine line) →
      ∀ entry ∈ entries, IsOneLine entry.className ∧ ∀ line ∈ entry.body, IsOneLine line := by
  induction lines with
  | nil =>
    intro place entries read
    cases place <;> cases read
  | cons line rest ih =>
    obtain ⟨here, others⟩ := List.forall_mem_cons.1 one
    intro place entries read before
    cases place with
    | front =>
      obtain ⟨className, opened, read⟩ := Option.bind_eq_some_iff.1 read
      refine ih others read ?_
      rintro _ _ ⟨⟩
      exact ⟨isOneLine_of_openedClass? opened here, fun _ mem => by cases mem⟩
    | body className sofar =>
      obtain ⟨name, ofSofar⟩ := before className sofar rfl
      rw [readFrom] at read
      split at read
      · obtain ⟨behind, readBehind, rfl⟩ := Option.map_eq_some_iff.1 read
        refine List.forall_mem_cons.2 ⟨⟨name, ofSofar⟩, ih others readBehind ?_⟩
        rintro _ _ ⟨⟩
      · obtain ⟨text, inside, read⟩ := Option.bind_eq_some_iff.1 read
        refine ih others read ?_
        rintro _ _ ⟨⟩
        have whole : IsOneLine text := isOneLine_of_indented? inside here
        exact ⟨name, List.forall_mem_append.2 ⟨ofSofar, List.forall_mem_singleton.2 whole⟩⟩
    | behind =>
      rw [readFrom] at read
      split at read
      · split at read
        · cases read
          exact fun _ mem => by cases mem
        · refine ih others read ?_
          rintro _ _ ⟨⟩
      · cases read

/-- What is read in a text is on one line. -/
theorem isOneLine_of_readRules {text : String} {entries : List Entry}
    (read : readRules text = some entries) :
    ∀ entry ∈ entries, IsOneLine entry.className ∧ ∀ line ∈ entry.body, IsOneLine line := by
  unfold readRules at read
  split at read
  · cases read
    exact fun _ mem => by cases mem
  · refine isOneLine_of_readFrom (fun line mem broken => ?_) read ?_
    · obtain ⟨-, other⟩ := mem_of_mem_pieces mem broken
      cases other
    · rintro _ _ ⟨⟩

/-- Rules read back from their texts, with a blank line between each two, if and only if no name and
no line is broken. -/
theorem readRules_intercalate_iff {rules : List Rule} :
    readRules ("\n".intercalate (rules.map Rule.text)) = some (rules.map Rule.entry) ↔
      ∀ rule ∈ rules, IsOneLine rule.className ∧ ∀ line ∈ rule.body, IsOneLine line := by
  constructor
  · intro read rule mem
    exact isOneLine_of_readRules read rule.entry (List.mem_map_of_mem mem)
  · intro whole
    by_cases empty : rules = []
    · rw [empty]
      rfl
    · rw [readRules, if_neg, readFrom_front_rules empty whole]
      intro noText
      obtain ⟨rule, rest, rfl⟩ := List.exists_cons_of_ne_nil empty
      have dot := congrArg (fun text : String => text.toList.head?) noText
      by_cases last : rest = []
      · simp [last, toList_text, opening] at dot
      · have more : rest.map Rule.text ≠ [] := mt List.map_eq_nil_iff.1 last
        rw [List.map_cons, String.intercalate_cons_of_ne_nil more] at dot
        simp [toList_text, opening] at dot

end Css

/-- **The rules of a registry read back in order if and only if no name and no line of them is
broken.** -/
theorem Registry.readRules_css_iff (registry : Registry) :
    Css.readRules registry.css = some (registry.sorted.map Rule.entry) ↔
      ∀ rule ∈ registry.rules, IsOneLine rule.className ∧ ∀ line ∈ rule.body, IsOneLine line := by
  rw [css, Css.readRules_intercalate_iff]
  constructor
  · exact fun whole rule mem => whole rule (registry.sorted_perm.symm.subset mem)
  · exact fun whole rule mem => whole rule (registry.sorted_perm.subset mem)

end SceneMarkup
