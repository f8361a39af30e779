/-!
# Pieces of a text

* `pieces`: what stands between the characters that separate, empty pieces included;
* `words`: the pieces that are not empty;
* `joined`: pieces with a separator between them, which undoes `pieces` (`joined_pieces`);
* `occurs`: a text occurs in another one.
-/

namespace SceneMarkup.Text

/-- What stands between the separators of a text: one piece more than there are separators. -/
def pieces (separates : Char → Bool) : List Char → List (List Char)
  | [] => [[]]
  | c :: rest =>
    if separates c then [] :: pieces separates rest
    else
      match pieces separates rest with
      | first :: others => (c :: first) :: others
      | [] => [[c]]

theorem pieces_ne_nil (separates : Char → Bool) (text : List Char) :
    pieces separates text ≠ [] := by
  cases text with
  | nil => simp [pieces]
  | cons c rest =>
    unfold pieces
    split
    · simp
    · split <;> simp

/-- The pieces that are not empty: the maximal runs without a separator. -/
def words (separates : Char → Bool) (text : List Char) : List (List Char) :=
  (pieces separates text).filter fun piece => !piece.isEmpty

/-- Pieces with a separator between each two. -/
def joined (separator : Char) : List (List Char) → List Char
  | [] => []
  | [piece] => piece
  | piece :: rest => piece ++ separator :: joined separator rest

theorem joined_cons_ne_nil (separator : Char) (piece : List Char) {rest : List (List Char)}
    (more : rest ≠ []) :
    joined separator (piece :: rest) = piece ++ separator :: joined separator rest := by
  cases rest with
  | nil => exact absurd rfl more
  | cons => rfl

theorem joined_pieces (separator : Char) (text : List Char) :
    joined separator (pieces (· == separator) text) = text := by
  induction text with
  | nil => rfl
  | cons c rest ih =>
    unfold pieces
    split
    · next same =>
      rw [joined_cons_ne_nil _ _ (pieces_ne_nil _ _), ih, List.nil_append, eq_of_beq same]
    · split
      · next first others shape =>
        rw [← ih, shape]
        cases others <;> rfl
      · next shape => exact absurd shape (pieces_ne_nil _ _)

/-- A text occurs in another one; the empty text occurs in every one. -/
def occurs (pattern : List Char) : List Char → Bool
  | [] => pattern.isEmpty
  | c :: rest => pattern.isPrefixOf (c :: rest) || occurs pattern rest

end SceneMarkup.Text
