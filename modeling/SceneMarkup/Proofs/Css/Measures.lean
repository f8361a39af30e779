import Mathlib.Data.Rat.Defs
import Mathlib.Tactic.FieldSimp
import Mathlib.Tactic.NormNum
import Mathlib.Tactic.Ring
import SceneMarkup.Proofs.Css.Cascade
import SceneMarkup.Proofs.Numeric.Halves
import SceneMarkup.Proofs.Text.Kinds
import SceneMarkup.Proofs.Text.Pieces

/-!
# Reading lengths

How a browser reads the numbers, lengths and functions of style values, as far as they occur here.

* `number?`: a decimal number, with a sign and a point or without;
* `Measure`, `measure?`: a length in pixels or as a share, and the text it is read from;
* `measure?_halfText`: a number of halves reads back;
* `FunctionCall`, `calls?`: the calls of functions that a value consists of;
* `calls?_intercalate`: calls that are written one after the other read back;
* `last?`: the last value of a property, which is the one that counts.
-/

namespace SceneMarkup.Css

open Text (IsOf isOf_nat)

/-! ### Numbers -/

/-- A decimal number without a sign. -/
def magnitude? (text : List Char) : Option ℚ :=
  let whole := text.takeWhile Char.isDigit
  match text.dropWhile Char.isDigit with
  | [] => if whole.isEmpty then none else some (Nat.ofDigitChars 10 whole 0)
  | '.' :: places =>
    if places.isEmpty || !places.all Char.isDigit then none
    else some (Nat.ofDigitChars 10 whole 0 + Nat.ofDigitChars 10 places 0 / 10 ^ places.length)
  | _ => none

/-- A decimal number. -/
def number? : List Char → Option ℚ
  | '-' :: text => (magnitude? text).map Neg.neg
  | text => magnitude? text

/-- A length: in pixels, or a share of another length in hundredths. -/
inductive Measure where
  | pixels (amount : ℚ)
  | percent (amount : ℚ)
  deriving DecidableEq

/-- A length in pixels, given what shares are taken of. -/
def Measure.of (whole : ℚ) : Measure → ℚ
  | pixels amount => amount
  | percent amount => amount / 100 * whole

/-- A character of a number. -/
def isNumeric (c : Char) : Bool := c.isDigit || c == '-' || c == '.'

/-- A number with a unit. -/
def measure? (text : List Char) : Option Measure :=
  match text.dropWhile isNumeric with
  | ['p', 'x'] => (number? (text.takeWhile isNumeric)).map .pixels
  | ['%'] => (number? (text.takeWhile isNumeric)).map .percent
  | _ => none

/-- A run of characters of a kind ends where another character follows. -/
theorem span_append {p : Char → Bool} {a b : List Char} (inside : ∀ c ∈ a, p c = true)
    (stops : ∀ c ∈ b.head?, p c = false) :
    (a ++ b).takeWhile p = a ∧ (a ++ b).dropWhile p = b := by
  rw [List.takeWhile_append_of_pos inside, List.dropWhile_append_of_pos inside]
  cases b with
  | nil => simp
  | cons c rest =>
    have stop := stops c rfl
    simp [stop]

/-! ### Hundredths and halves -/

theorem isDigit_of_mem_toString {n : Nat} : ∀ c ∈ (toString n).toList, c.isDigit = true := by
  intro c mem
  rw [Nat.toString_eq_repr, Nat.toList_repr] at mem
  exact Nat.isDigit_of_mem_toDigits (by decide) (by decide) mem

theorem ofDigitChars_toString (n : Nat) : Nat.ofDigitChars 10 (toString n).toList 0 = n := by
  rw [Nat.toString_eq_repr, Nat.toList_repr]
  exact Nat.ofDigitChars_toDigits (by decide) (by decide)

theorem toList_toString_ne_nil (n : Nat) : (toString n).toList ≠ [] := by
  rw [Nat.toString_eq_repr, Nat.toList_repr]
  exact Nat.toDigits_ne_nil

/-- A whole part and the places after it. -/
theorem magnitude?_hundredths (parts : Nat) :
    magnitude? ((toString (parts / 100)).toList ++ (Binary.places (parts % 100)).toList) =
      some (parts / 100 : ℚ) := by
  have digits := isDigit_of_mem_toString (n := parts / 100)
  have whole : (parts : ℚ) = 100 * (parts / 100 : Nat) + (parts % 100 : Nat) := by
    exact_mod_cast (Nat.div_add_mod parts 100).symm
  by_cases exact : parts % 100 = 0
  · obtain ⟨front, rest⟩ := span_append (b := []) digits (by simp)
    rw [exact] at whole ⊢
    rw [show (Binary.places 0).toList = [] from rfl, magnitude?, rest, front, ofDigitChars_toString,
      whole]
    simp
  · obtain ⟨decimals, shape, ⟨length, areDigits, -⟩, value⟩ :=
      Binary.exists_places (Nat.mod_lt parts (by decide)) exact
    obtain ⟨front, rest⟩ := span_append (b := '.' :: decimals) digits (by simp)
    have shown : (decimals.isEmpty || !decimals.all Char.isDigit) = false := by
      rw [areDigits]
      cases decimals with
      | nil => simp at length
      | cons d others => rfl
    have fraction : (Nat.ofDigitChars 10 decimals 0 : ℚ) / 10 ^ decimals.length =
        (parts % 100 : Nat) / 100 := by
      rw [div_eq_div_iff (by positivity) (by norm_num)]
      exact_mod_cast value
    rw [shape, magnitude?, rest, front]
    show (if (decimals.isEmpty || !decimals.all Char.isDigit) = true then none else some (_ + _)) =
      _
    rw [shown, if_neg Bool.false_ne_true, ofDigitChars_toString, fraction, whole, add_div,
      mul_div_cancel_left₀ _ (by norm_num)]

/-- Without a sign in front, a number is its magnitude. -/
theorem number?_of_isDigit {text : List Char} (unsigned : ∀ c ∈ text.head?, c.isDigit = true) :
    number? text = magnitude? text := by
  unfold number?
  split
  · exact absurd (unsigned '-' rfl) (by decide)
  · rfl

open Binary (halfText hundredthText)

/-- A number of hundredths reads back. -/
theorem number?_hundredthText (n : Int) :
    number? (hundredthText n).toList = some (n / 100 : ℚ) := by
  have size : ((n.natAbs : ℕ) : ℚ) = |(n : ℚ)| := by rw [Nat.cast_natAbs, Int.cast_abs]
  by_cases negative : n < 0
  · have value : (n.natAbs : ℚ) = -n := by rw [size, abs_of_neg (by exact_mod_cast negative)]
    have shape : (hundredthText n).toList = '-' :: ((toString (n.natAbs / 100)).toList ++
        (Binary.places (n.natAbs % 100)).toList) := by
      simp [hundredthText, negative]
    rw [shape, number?, magnitude?_hundredths, Option.map_some, value]
    ring_nf
  · have value : (n.natAbs : ℚ) = n := by
      rw [size, abs_of_nonneg (by exact_mod_cast Int.not_lt.1 negative)]
    have shape : (hundredthText n).toList = (toString (n.natAbs / 100)).toList ++
        (Binary.places (n.natAbs % 100)).toList := by
      simp [hundredthText, negative]
    rw [shape, number?_of_isDigit, magnitude?_hundredths, value]
    intro c first
    obtain ⟨d, rest, digits⟩ := List.exists_cons_of_ne_nil (toList_toString_ne_nil (n.natAbs / 100))
    rw [digits, List.cons_append, List.head?_cons, Option.mem_some_iff] at first
    exact isDigit_of_mem_toString c (by rw [digits, first]; exact List.mem_cons_self)

/-- A number of halves reads back. -/
theorem number?_halfText (n : Int) : number? (halfText n).toList = some (n / 2 : ℚ) := by
  rw [← Binary.hundredthText_halves, number?_hundredthText]
  congr 1
  push_cast
  ring

theorem isNumeric_of_isDigit (c : Char) (digit : c.isDigit = true) : isNumeric c = true := by
  rw [isNumeric, digit]
  rfl

theorem isNumeric_halfText (n : Int) : IsOf isNumeric (halfText n) := by
  have digits : IsOf isNumeric (toString (n.natAbs / 2)) := isOf_nat isNumeric_of_isDigit _
  refine .append (.append ?_ digits) ?_
  · split <;> decide
  · split <;> decide

/-- So many pixels read back. -/
theorem measure?_halfText (n : Int) :
    measure? (halfText n ++ "px").toList = some (.pixels (n / 2)) := by
  obtain ⟨front, rest⟩ := span_append (b := ['p', 'x']) (isNumeric_halfText n) (by simp; decide)
  rw [String.toList_append, show "px".toList = ['p', 'x'] from rfl, measure?, rest, front,
    number?_halfText]
  rfl

/-- So many hundredths of another length read back. -/
theorem measure?_share (n : Int) :
    measure? (halfText n ++ "%").toList = some (.percent (n / 2)) := by
  obtain ⟨front, rest⟩ := span_append (b := ['%']) (isNumeric_halfText n) (by simp; decide)
  rw [String.toList_append, show "%".toList = ['%'] from rfl, measure?, rest, front,
    number?_halfText]
  rfl

/-! ### Functions -/

/-- Any character but a parenthesis. -/
def isUnbracketed (c : Char) : Bool := c != '(' && c != ')'

theorem ne_of_isUnbracketed {c : Char} (plain : isUnbracketed c = true) : c ≠ '(' ∧ c ≠ ')' := by
  rwa [isUnbracketed, Bool.and_eq_true_iff, bne_iff_ne, bne_iff_ne] at plain

/-- No parenthesis is among characters that do not include them. -/
theorem isUnbracketed_of {kind : Char → Bool} (opens : kind '(' = false) (closes : kind ')' = false)
    (c : Char) (h : kind c = true) : isUnbracketed c = true := by
  rw [isUnbracketed, Bool.and_eq_true_iff, bne_iff_ne, bne_iff_ne]
  constructor
  · rintro rfl
    rw [h] at opens
    cases opens
  · rintro rfl
    rw [h] at closes
    cases closes

/-- A call of a function in a value. -/
structure FunctionCall where
  name : String
  argument : String
  deriving DecidableEq

namespace FunctionCall

/-- A call as it is written. -/
def text (call : FunctionCall) : String := call.name ++ "(" ++ call.argument ++ ")"

/-- A call without its closing parenthesis, after blanks. -/
def read (text : List Char) : FunctionCall :=
  let text := text.dropWhile (· == ' ')
  ⟨String.ofList (text.takeWhile (· != '(')), String.ofList ((text.dropWhile (· != '(')).drop 1)⟩

/-- A call that is written so that it can be read. -/
structure IsPlain (call : FunctionCall) : Prop where
  name : IsOf isUnbracketed call.name
  unspaced : call.name.toList.head? ≠ some ' '
  argument : IsOf isUnbracketed call.argument

end FunctionCall

/-- The calls that a value consists of. -/
def calls? (text : String) : Option (List FunctionCall) :=
  let pieces := Text.pieces (· == ')') text.toList
  if pieces.getLast? = some [] then some (pieces.dropLast.map FunctionCall.read) else none

theorem FunctionCall.read_blank {call : FunctionCall} (plain : call.IsPlain) {blank : List Char}
    (isBlank : ∀ c ∈ blank, c = ' ') :
    FunctionCall.read (blank ++ (call.name.toList ++ '(' :: call.argument.toList)) = call := by
  have skipped : (blank ++ (call.name.toList ++ '(' :: call.argument.toList)).dropWhile (· == ' ') =
      call.name.toList ++ '(' :: call.argument.toList := by
    refine (span_append (fun c mem => by simp [isBlank c mem]) fun c first => ?_).2
    cases name : call.name.toList with
    | nil =>
      rw [name] at first
      obtain rfl : '(' = c := by simpa using first
      decide
    | cons d rest =>
      rw [name] at first
      obtain rfl : d = c := by simpa using first
      have unspaced := plain.unspaced
      rw [name, List.head?_cons, Ne, Option.some.injEq] at unspaced
      exact beq_false_of_ne unspaced
  have named := span_append (p := (· != '(')) (a := call.name.toList)
    (b := '(' :: call.argument.toList)
    (fun c mem => bne_iff_ne.2 (ne_of_isUnbracketed (plain.name c mem)).1) (by simp)
  rw [FunctionCall.read, skipped, named.1, named.2]
  simp

/-- The pieces of calls that are written one after the other are the calls and an empty end. -/
theorem exists_pieces_intercalate {calls : List FunctionCall} (nonempty : calls ≠ [])
    (plain : ∀ call ∈ calls, call.IsPlain)
    (blank : List Char) (isBlank : ∀ c ∈ blank, c = ' ') :
    ∃ front,
      Text.pieces (· == ')') (blank ++ (" ".intercalate (calls.map FunctionCall.text)).toList) =
      front ++ [[]] ∧ front.map FunctionCall.read = calls := by
  induction calls generalizing blank with
  | nil => exact absurd rfl nonempty
  | cons call rest ih =>
    obtain ⟨here, others⟩ := List.forall_mem_cons.1 plain
    have whole : ∀ c ∈ blank ++ (call.name.toList ++ '(' :: call.argument.toList),
        (c == ')') = false := by
      intro c mem
      simp only [List.mem_append, List.mem_cons] at mem
      rw [beq_eq_false_iff_ne]
      rcases mem with blanks | name | rfl | argument
      · rw [isBlank c blanks]
        decide
      · exact (ne_of_isUnbracketed (here.name c name)).2
      · decide
      · exact (ne_of_isUnbracketed (here.argument c argument)).2
    have alone :
        Text.pieces (· == ')') (blank ++ (call.name.toList ++ '(' :: call.argument.toList)) =
        [blank ++ (call.name.toList ++ '(' :: call.argument.toList)] :=
          Text.pieces_of_forall_not whole
    have written : call.text.toList = call.name.toList ++ '(' :: call.argument.toList ++ [')'] := by
      simp [FunctionCall.text]
    by_cases more : rest = []
    · refine ⟨[_], ?_, by rw [List.map_singleton, FunctionCall.read_blank here isBlank, more]⟩
      rw [more, List.map_singleton, String.intercalate_singleton, written, ← List.append_assoc,
        Text.pieces_append_cons (by decide), alone]
      rfl
    · obtain ⟨front, pieces, read⟩ := ih more others [' '] (by simp)
      refine ⟨_ :: front, ?_, by rw [List.map_cons, FunctionCall.read_blank here isBlank, read]⟩
      have split : blank ++ (" ".intercalate ((call :: rest).map FunctionCall.text)).toList =
          blank ++ (call.name.toList ++ '(' :: call.argument.toList) ++
            ')' :: ([' '] ++ (" ".intercalate (rest.map FunctionCall.text)).toList) := by
        rw [List.map_cons, String.intercalate_cons_of_ne_nil (by simpa using more),
          String.toList_append, String.toList_append, written]
        simp
      rw [split, Text.pieces_append_cons (by decide), alone, pieces]
      rfl

/-- Calls that are written one after the other read back. -/
theorem calls?_intercalate {calls : List FunctionCall} (nonempty : calls ≠ [])
    (plain : ∀ call ∈ calls, call.IsPlain) :
    calls? (" ".intercalate (calls.map FunctionCall.text)) = some calls := by
  obtain ⟨front, pieces, read⟩ := exists_pieces_intercalate nonempty plain [] (by simp)
  rw [List.nil_append] at pieces
  rw [calls?, pieces]
  simp [read]

/-- The value that counts of those that a list gives a property: the last one. -/
def last? (list : List Declaration) (property : String) : Option String :=
  (valuesOf list property).getLast?

end SceneMarkup.Css
