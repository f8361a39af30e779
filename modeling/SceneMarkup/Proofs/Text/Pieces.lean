import Mathlib.Data.List.Basic
import SceneMarkup.Text.Pieces

/-!
# Characters of pieces

* `pieces_append_cons`: a separator divides the pieces of a text;
* `pieces_of_forall_not`: a text without separators is one piece;
* `mem_of_mem_pieces`: the characters of pieces are those of the text that do not separate;
* `length_le_of_mem_pieces`: no piece is longer than the text;
* `mem_joined`: the characters of joined pieces are theirs, and the separator;
* `append_cons_eq_append_cons_iff`: where two texts are divided that are the same.
-/

namespace SceneMarkup.Text

variable {separates : Char → Bool}

/-- A separator divides the pieces of a text. -/
theorem pieces_append_cons {c : Char} (hc : separates c = true) (a b : List Char) :
    pieces separates (a ++ c :: b) = pieces separates a ++ pieces separates b := by
  induction a with
  | nil => simp [pieces, hc]
  | cons x a ih =>
    rw [List.cons_append, pieces, pieces, ih]
    by_cases hx : separates x = true
    · rw [if_pos hx, if_pos hx, List.cons_append]
    · rw [if_neg hx, if_neg hx]
      obtain ⟨first, others, shape⟩ := List.exists_cons_of_ne_nil (pieces_ne_nil separates a)
      rw [shape]
      rfl

/-- A text without separators is one piece. -/
theorem pieces_of_forall_not {text : List Char} (unseparated : ∀ c ∈ text, separates c = false) :
    pieces separates text = [text] := by
  induction text with
  | nil => rfl
  | cons c rest ih =>
    obtain ⟨first, others⟩ := List.forall_mem_cons.1 unseparated
    rw [pieces, first, if_neg Bool.false_ne_true, ih others]

/-- The characters of pieces are characters of the text that do not separate. -/
theorem mem_of_mem_pieces {text piece : List Char} (h : piece ∈ pieces separates text) {c : Char}
    (mem : c ∈ piece) : c ∈ text ∧ separates c = false := by
  induction text generalizing piece with
  | nil =>
    obtain rfl := List.mem_singleton.1 h
    cases mem
  | cons x rest ih =>
    have behind : ∀ {piece : List Char}, piece ∈ pieces separates rest → c ∈ piece →
        c ∈ x :: rest ∧ separates c = false :=
      fun inside mem => ⟨List.mem_cons_of_mem x (ih inside mem).1, (ih inside mem).2⟩
    rw [pieces] at h
    split at h
    · rcases List.mem_cons.1 h with rfl | inside
      · cases mem
      · exact behind inside mem
    · next plain =>
      obtain ⟨first, others, shape⟩ := List.exists_cons_of_ne_nil (pieces_ne_nil separates rest)
      rw [shape] at h behind
      rcases List.mem_cons.1 h with rfl | inside
      · -- The first character joins the first piece of the rest.
        rcases List.mem_cons.1 mem with rfl | mem
        · exact ⟨List.mem_cons_self, Bool.not_eq_true _ ▸ plain⟩
        · exact behind List.mem_cons_self mem
      · exact behind (List.mem_cons_of_mem first inside) mem

/-- No piece is longer than the text. -/
theorem length_le_of_mem_pieces {text piece : List Char} (h : piece ∈ pieces separates text) :
    piece.length ≤ text.length := by
  induction text generalizing piece with
  | nil =>
    obtain rfl := List.mem_singleton.1 h
    exact Nat.le_refl 0
  | cons x rest ih =>
    rw [pieces] at h
    split at h
    · rcases List.mem_cons.1 h with rfl | inside
      · exact Nat.zero_le _
      · exact Nat.le_succ_of_le (ih inside)
    · obtain ⟨first, others, shape⟩ := List.exists_cons_of_ne_nil (pieces_ne_nil separates rest)
      rw [shape] at h ih
      rcases List.mem_cons.1 h with rfl | inside
      · exact Nat.succ_le_succ (ih List.mem_cons_self)
      · exact Nat.le_succ_of_le (ih (List.mem_cons_of_mem first inside))

theorem mem_joined {c separator : Char} {items : List (List Char)}
    (mem : c ∈ joined separator items) : c = separator ∨ ∃ item ∈ items, c ∈ item := by
  induction items with
  | nil => cases mem
  | cons first rest ih =>
    cases rest with
    | nil => exact .inr ⟨first, List.mem_cons_self, mem⟩
    | cons second rest =>
      rw [joined_cons_ne_nil _ _ (List.cons_ne_nil _ _), List.mem_append, List.mem_cons] at mem
      rcases mem with mem | rfl | mem
      · exact .inr ⟨first, List.mem_cons_self, mem⟩
      · exact .inl rfl
      · rcases ih mem with same | ⟨item, listed, inside⟩
        · exact .inl same
        · exact .inr ⟨item, List.mem_cons_of_mem _ listed, inside⟩

/-- Two texts around a separator are the same if they are divided at one place, or one of them is
divided behind the other. -/
theorem append_cons_eq_append_cons_iff {separator : Char} {a b c d : List Char} :
    a ++ separator :: b = c ++ separator :: d ↔
      a = c ∧ b = d ∨ (∃ w, c = a ++ separator :: w ∧ b = w ++ separator :: d) ∨
        ∃ w, a = c ++ separator :: w ∧ d = w ++ separator :: b := by
  constructor
  · intro same
    rcases List.append_eq_append_iff.1 same with ⟨between, rfl, behind⟩ | ⟨between, rfl, behind⟩ <;>
      rcases between with _ | ⟨_, w⟩
    · exact .inl ⟨(List.append_nil a).symm, (List.cons.inj behind).2⟩
    · obtain ⟨rfl, rest⟩ := List.cons.inj behind
      exact .inr (.inl ⟨w, rfl, rest⟩)
    · exact .inl ⟨List.append_nil c, (List.cons.inj behind).2.symm⟩
    · obtain ⟨rfl, rest⟩ := List.cons.inj behind
      exact .inr (.inr ⟨w, rfl, rest⟩)
  · rintro (⟨rfl, rfl⟩ | ⟨w, rfl, rfl⟩ | ⟨w, rfl, rfl⟩) <;> simp

end SceneMarkup.Text
