import SceneMarkup.Proofs.Css.Values
import SceneMarkup.Proofs.Layout.Utilities
import SceneMarkup.Proofs.Stylesheet.Interning
import SceneMarkup.Proofs.Text.Pieces

/-!
# What the keys of utilities mean

A key is some words, and an amount behind them unless the words alone say everything. The words are
those that begin with a small letter; an amount never does. So words and amount can be told from the
key, and together they say what the utility declares.

* `stem`, `amount`: the words of a key, and what follows them;
* `stem_of_number`, `amount_of_number`: both of a key that is put together from words and a number;
* `declared`, `keyMeaning`: what a utility of some words declares for an amount;
* `IsUtility.keyed`: every utility declares what its key means.
-/

namespace SceneMarkup.Layout

open Css (Declaration)
open Text (joined joined_pieces pieces)

/-! ### Words and amounts -/

/-- A text that begins with a small letter. -/
def isWord (text : List Char) : Bool := text.head?.any Char.isLower

/-- The pieces of a key between its hyphens. -/
def keyPieces (key : String) : List (List Char) := pieces (· == '-') key.toList

/-- The words of a key. -/
def stem (key : String) : String := String.ofList (joined '-' ((keyPieces key).takeWhile isWord))

/-- What follows the words of a key. -/
def amount (key : String) : String := String.ofList (joined '-' ((keyPieces key).dropWhile isWord))

theorem keyPieces_append (words number : String) :
    keyPieces (words ++ "-" ++ number) = keyPieces words ++ keyPieces number := by
  unfold keyPieces
  rw [String.toList_append, String.toList_append, List.append_assoc]
  exact Text.pieces_append_cons rfl _ _

/-- The pieces of a text that begins with no small letter begin with no word. -/
theorem takeWhile_keyPieces {number : String} (h : isWord number.toList = false) :
    (keyPieces number).takeWhile isWord = [] := by
  unfold keyPieces
  cases shape : number.toList with
  | nil => rfl
  | cons c rest =>
    -- The first piece is empty or begins as the number does.
    rw [shape] at h
    have first : ∀ others, isWord (c :: others) = false := fun _ => h
    rw [pieces]
    split
    · rfl
    · split
      · rw [List.takeWhile_cons, first]; rfl
      · rw [List.takeWhile_cons, first]; rfl

theorem stem_of_number {words number : String} (hwords : (keyPieces words).all isWord = true)
    (hnumber : isWord number.toList = false) : stem (words ++ "-" ++ number) = words := by
  rw [stem, keyPieces_append, List.takeWhile_append_of_pos (List.all_eq_true.1 hwords),
    takeWhile_keyPieces hnumber, List.append_nil, keyPieces, joined_pieces, String.ofList_toList]

theorem amount_of_number {words number : String} (hwords : (keyPieces words).all isWord = true)
    (hnumber : isWord number.toList = false) : amount (words ++ "-" ++ number) = number := by
  have all : (keyPieces number).dropWhile isWord = keyPieces number := by
    have split := List.takeWhile_append_dropWhile (p := isWord) (l := keyPieces number)
    rwa [takeWhile_keyPieces hnumber, List.nil_append] at split
  rw [amount, keyPieces_append, List.dropWhile_append_of_pos (List.all_eq_true.1 hwords), all,
    keyPieces, joined_pieces, String.ofList_toList]

/-! ### Numbers begin with no small letter -/

theorem not_isLower_of_isDigit {c : Char} (digit : c.isDigit = true) : c.isLower = false := by
  rw [Bool.eq_false_iff]
  intro lower
  have low : 97 ≤ c.val := of_decide_eq_true (Bool.and_eq_true_iff.1 lower).1
  have high : c.val ≤ 57 := of_decide_eq_true (Bool.and_eq_true_iff.1 digit).2
  exact absurd (UInt32.le_trans low high) (by decide)

theorem isWord_toString_nat (n : Nat) : isWord (toString n).toList = false := by
  rw [show toString n = n.repr from rfl, Nat.toList_repr]
  cases shape : Nat.toDigits 10 n with
  | nil => rfl
  | cons c rest =>
    have digit : c.isDigit = true :=
      Nat.isDigit_of_mem_toDigits (by decide) (by decide) (shape ▸ List.mem_cons_self)
    simp only [isWord, List.head?_cons, Option.any_some]
    exact not_isLower_of_isDigit digit

theorem isWord_toString_int (n : Int) : isWord (toString n).toList = false := by
  cases n with
  | ofNat n => exact isWord_toString_nat n
  | negSucc n =>
    rw [show toString (Int.negSucc n) = "-" ++ toString (n + 1) from rfl, String.toList_append]
    rfl

/-- A sign or none, a whole number, and anything behind it. -/
theorem isWord_signed (negative : Bool) (n : Nat) (rest : String) :
    isWord ((if negative then "-" else "") ++ toString n ++ rest).toList = false := by
  cases negative with
  | true =>
    rw [if_pos rfl, String.append_assoc, String.toList_append]
    rfl
  | false =>
    have digits := isWord_toString_nat n
    rw [if_neg Bool.false_ne_true, String.empty_append, String.toList_append]
    cases shape : (toString n).toList with
    | nil => exact absurd (String.toList_eq_nil_iff.1 shape) Nat.repr_ne_empty
    | cons c others =>
      rw [shape] at digits
      exact digits

theorem isWord_compact {f : Format} (x : Binary f) : isWord x.compact.toList = false := by
  rcases compact_cases x with name | ⟨n, whole⟩ | ⟨negative, whole, parts, places⟩
  · rw [name]
    rfl
  · rw [whole]
    exact isWord_toString_int n
  · rw [places]
    exact isWord_signed negative whole (Binary.places parts)

/-! ### The table of utilities -/

/-- What the utility of some words declares for an amount. -/
def declared (words amount : String) : List Declaration :=
  match words with
  | "flex" => [⟨"display", "flex"⟩]
  | "flex-row" => [⟨"flex-direction", "row"⟩]
  | "flex-col" => [⟨"flex-direction", "column"⟩]
  | "flex-wrap" => [⟨"flex-wrap", "wrap"⟩]
  | "content-between" => [⟨"align-content", "space-between"⟩]
  | "justify-start" => [⟨"justify-content", "flex-start"⟩]
  | "justify-end" => [⟨"justify-content", "flex-end"⟩]
  | "justify-center" => [⟨"justify-content", "center"⟩]
  | "justify-between" => [⟨"justify-content", "space-between"⟩]
  | "items-start" => [⟨"align-items", "flex-start"⟩]
  | "items-end" => [⟨"align-items", "flex-end"⟩]
  | "items-center" => [⟨"align-items", "center"⟩]
  | "items-baseline" => [⟨"align-items", "baseline"⟩]
  | "items-stretch" => [⟨"align-items", "stretch"⟩]
  | "grid" => [⟨"display", "grid"⟩]
  | "grid-rows" => [⟨"grid-template-rows", "repeat(" ++ amount ++ ", minmax(0, 1fr))"⟩]
  | "grid-cols" => [⟨"grid-template-columns", "repeat(" ++ amount ++ ", minmax(0, 1fr))"⟩]
  | "gap" => [⟨"gap", amount ++ "px"⟩]
  | "gap-x" => [⟨"column-gap", amount ++ "px"⟩]
  | "gap-y" => [⟨"row-gap", amount ++ "px"⟩]
  | "p" => [⟨"padding", amount ++ "px"⟩]
  | "pt" => [⟨"padding-top", amount ++ "px"⟩]
  | "pr" => [⟨"padding-right", amount ++ "px"⟩]
  | "pb" => [⟨"padding-bottom", amount ++ "px"⟩]
  | "pl" => [⟨"padding-left", amount ++ "px"⟩]
  | "grow" => [⟨"flex-grow", "1"⟩, ⟨"flex-basis", "0"⟩]
  | "self-stretch" => [⟨"align-self", "stretch"⟩]
  | "shrink" => [⟨"flex-shrink", "0"⟩]
  | "text" => [⟨"font-size", amount ++ "px"⟩]
  | "paragraph" => [⟨"display", "block"⟩, ⟨"margin-bottom", amount ++ "px"⟩]
  | _ => []

/-- What a utility with a key declares. -/
def keyMeaning (key : String) : List Declaration := declared (stem key) (amount key)

/-- A request whose key, if it has one, means what it declares. -/
abbrev IsKeyed (request : Request) : Prop := request.Keyed keyMeaning

theorem keyMeaning_of_number {words number : String} (hwords : (keyPieces words).all isWord = true)
    (hnumber : isWord number.toList = false) :
    keyMeaning (words ++ "-" ++ number) = declared words number := by
  rw [keyMeaning, stem_of_number hwords hnumber, amount_of_number hwords hnumber]

/-- The words of a utility for a length say which property it sets. -/
theorem declared_length : ∀ entry ∈ lengthUtilities, (keyPieces entry.1).all isWord = true ∧
    ∀ amount, declared entry.1 amount = [⟨entry.2, amount ++ "px"⟩] := by
  have words : ∀ entry ∈ lengthUtilities, (keyPieces entry.1).all isWord = true := by decide
  intro entry listed
  refine ⟨words entry listed, fun amount => ?_⟩
  simp only [lengthUtilities, List.mem_cons, List.not_mem_nil, or_false] at listed
  rcases listed with rfl | rfl | rfl | rfl | rfl | rfl | rfl | rfl | rfl <;> rfl

/-- The words of a utility for tracks say which property it sets. -/
theorem declared_tracks : ∀ entry ∈ trackUtilities, (keyPieces entry.1).all isWord = true ∧
    ∀ amount, declared entry.1 amount =
      [⟨entry.2, "repeat(" ++ amount ++ ", minmax(0, 1fr))"⟩] := by
  have words : ∀ entry ∈ trackUtilities, (keyPieces entry.1).all isWord = true := by decide
  intro entry listed
  refine ⟨words entry listed, fun amount => ?_⟩
  simp only [trackUtilities, List.mem_cons, List.not_mem_nil, or_false] at listed
  rcases listed with rfl | rfl <;> rfl

/-- **Every utility declares what its key means.** -/
theorem IsUtility.keyed {request : Request} (utility : IsUtility request) : IsKeyed request := by
  cases utility with
  | plain listed =>
    have each : ∀ request ∈ fixedUtilities, IsKeyed request := by decide
    exact each request listed
  | @length name property listed length =>
    obtain ⟨words, declares⟩ := declared_length _ listed
    show _ = keyMeaning (name ++ "-" ++ length.compact)
    rw [keyMeaning_of_number words (isWord_compact length), declares]
    rfl
  | @tracks name property listed count =>
    obtain ⟨words, declares⟩ := declared_tracks _ listed
    show _ = keyMeaning (name ++ "-" ++ toString count)
    rw [keyMeaning_of_number words (isWord_toString_nat count), declares]
  | paragraph spacing =>
    show _ = keyMeaning ("paragraph-" ++ spacing.compact)
    rw [show "paragraph-" = "paragraph" ++ "-" by decide,
      keyMeaning_of_number (by decide) (isWord_compact spacing)]
    rfl

end SceneMarkup.Layout
