import SceneMarkup.Proofs.Text.Pieces

/-!
# Words as maximal runs

The words of a text are what stands between its separators, each as long as it can be. There is one
way only to divide a text like that.

* `words_append_cons`: a separator divides the words of a text, from which the other equations
  follow;
* `Runs`: a text divided into runs, with separators around each of them;
* `Runs.words_eq`, `exists_runs`, `runs_iff`: every text can be divided, and its runs are its words;
* `words_joined`: words with a separator between them read back.
-/

namespace SceneMarkup.Text

variable {separates : Char → Bool} {text : List Char}

/-- A separator divides the words of a text. -/
theorem words_append_cons {c : Char} (hc : separates c = true) (a b : List Char) :
    words separates (a ++ c :: b) = words separates a ++ words separates b := by
  rw [words, pieces_append_cons hc, List.filter_append]
  rfl

/-- Separators in front of a text belong to none of its words. -/
theorem words_gap_append {gap : List Char} (separated : ∀ c ∈ gap, separates c = true)
    (text : List Char) : words separates (gap ++ text) = words separates text := by
  induction gap with
  | nil => rfl
  | cons c rest ih =>
    obtain ⟨here, others⟩ := List.forall_mem_cons.1 separated
    exact (words_append_cons here [] (rest ++ text)).trans (ih others)

/-- A text without separators is one word, unless it is empty. -/
theorem words_of_forall_not {word : List Char} (nonempty : word ≠ [])
    (inside : ∀ c ∈ word, separates c = false) : words separates word = [word] := by
  rw [words, pieces_of_forall_not inside]
  simp [nonempty]

/-- A word ends where a separator stands, or where the text does. -/
theorem words_word_append {word rest : List Char} (nonempty : word ≠ [])
    (inside : ∀ c ∈ word, separates c = false) (stops : ∀ c ∈ rest.head?, separates c = true) :
    words separates (word ++ rest) = word :: words separates rest := by
  cases rest with
  | nil =>
    rw [List.append_nil, words_of_forall_not nonempty inside]
    rfl
  | cons c rest =>
    have separator : separates c = true := stops c rfl
    rw [words_append_cons separator, words_of_forall_not nonempty inside]
    exact congrArg (word :: ·) (words_append_cons separator [] rest).symm

/-! ### Runs -/

/-- A text divided into runs of characters that do not separate, each as long as it can be: in front
of a run are separators only, and behind it is a separator or the end. -/
inductive Runs (separates : Char → Bool) : List Char → List (List Char) → Prop where
  | gap {gap : List Char} (separated : ∀ c ∈ gap, separates c = true) : Runs separates gap []
  | run {gap word rest : List Char} {runs : List (List Char)}
    (separated : ∀ c ∈ gap, separates c = true) (nonempty : word ≠ [])
    (inside : ∀ c ∈ word, separates c = false) (stops : ∀ c ∈ rest.head?, separates c = true)
    (others : Runs separates rest runs) : Runs separates (gap ++ (word ++ rest)) (word :: runs)

/-- The runs of a text are its words. -/
theorem Runs.words_eq {runs : List (List Char)} (divided : Runs separates text runs) :
    words separates text = runs := by
  induction divided with
  | @gap gap separated => simpa [words, pieces] using words_gap_append separated []
  | run separated nonempty inside stops _ ih =>
    rw [words_gap_append separated, words_word_append nonempty inside stops, ih]

/-- A character in front of a text stands in front of its first run, lengthens it, or is a run of
its own. -/
theorem Runs.exists_cons {runs : List (List Char)} (divided : Runs separates text runs) (c : Char) :
    ∃ runs, Runs separates (c :: text) runs := by
  cases kind : separates c with
  | true =>
    cases divided with
    | gap separated => exact ⟨[], .gap (List.forall_mem_cons.2 ⟨kind, separated⟩)⟩
    | run separated nonempty inside stops others =>
      exact ⟨_, .run (List.forall_mem_cons.2 ⟨kind, separated⟩) nonempty inside stops others⟩
  | false =>
    have nothing : ∀ d ∈ ([] : List Char), separates d = true := fun d mem => by cases mem
    have alone : ∀ d ∈ [c], separates d = false := List.forall_mem_singleton.2 kind
    cases divided with
    | gap separated =>
      exact ⟨_, .run nothing (List.cons_ne_nil c []) alone
        (fun d first => separated d (List.mem_of_head? first))
        (.gap separated)⟩
    | @run gap word rest runs separated nonempty inside stops others =>
      cases gap with
      | nil =>
        exact ⟨_, .run nothing (List.cons_ne_nil c word)
          (List.forall_mem_cons.2 ⟨kind, inside⟩) stops others⟩
      | cons d gap =>
        have behind : ∀ e ∈ (d :: gap ++ (word ++ rest)).head?, separates e = true :=
          fun e first => Option.some.inj first ▸ separated d List.mem_cons_self
        exact ⟨_, .run nothing (List.cons_ne_nil c []) alone behind
          (.run separated nonempty inside stops others)⟩

/-- Every text can be divided into runs. -/
theorem exists_runs (separates : Char → Bool) (text : List Char) :
    ∃ runs, Runs separates text runs := by
  induction text with
  | nil => exact ⟨[], .gap fun c mem => by cases mem⟩
  | cons c rest ih =>
    obtain ⟨runs, divided⟩ := ih
    exact divided.exists_cons c

/-- A text divides into its words, and in no other way. -/
theorem runs_iff {runs : List (List Char)} :
    Runs separates text runs ↔ runs = words separates text := by
  refine ⟨fun divided => divided.words_eq.symm, ?_⟩
  rintro rfl
  obtain ⟨runs, divided⟩ := exists_runs separates text
  rwa [divided.words_eq]

theorem runs_words (separates : Char → Bool) (text : List Char) :
    Runs separates text (words separates text) :=
  runs_iff.2 rfl

/-! ### Joined words -/

/-- Words with a separator between them read back. -/
theorem words_joined {separator : Char} (separated : separates separator = true)
    {items : List (List Char)}
    (each : ∀ item ∈ items, item ≠ [] ∧ ∀ c ∈ item, separates c = false) :
    words separates (joined separator items) = items := by
  induction items with
  | nil => rfl
  | cons first rest ih =>
    obtain ⟨⟨nonempty, inside⟩, others⟩ := List.forall_mem_cons.1 each
    by_cases last : rest = []
    · rw [last]
      exact words_of_forall_not nonempty inside
    · rw [joined_cons_ne_nil _ _ last, words_append_cons separated,
        words_of_forall_not nonempty inside, ih others]
      rfl

theorem intercalate_singleton_eq_joined (separator : Char) (items : List (List Char)) :
    [separator].intercalate items = joined separator items := by
  induction items with
  | nil => rfl
  | cons first rest ih =>
    by_cases last : rest = []
    · rw [last, List.intercalate_singleton]
      rfl
    · rw [List.intercalate_cons_of_ne_nil last, joined_cons_ne_nil _ _ last, ih, List.append_assoc,
        List.singleton_append]

end SceneMarkup.Text
