import SceneMarkup.Numeric.Arithmetic

/-!
# Numbers of JSON text

A whole number that fits 64 bits, with or without a sign, is kept as it is. Any other numeral is
read as a significand and a power of ten, and each of the two is rounded before they meet: the
number is close to the written one, and need not be the nearest to it.

* `Number`: a number of a JSON value;
* `Numeral`, `numeral?`: a numeral in its parts, and the reading of a word as one;
* `significand`: the value of the digits that fit 64 bits, and how many do not;
* `scale`: a significand times a power of ten;
* `Numeral.number?`: the number of a numeral, unless it is out of range.
-/

namespace SceneMarkup.Json

/-- A number: a whole one of 64 bits, or one with a fraction, an exponent or too many digits. -/
inductive Number where
  | whole (value : Int)
  | real (value : Double)
  deriving DecidableEq

/-! ### Numerals -/

/-- A numeral: its sign, the digits in front of the point and behind it, and its exponent. -/
structure Numeral where
  negative : Bool
  whole : List Char
  places : List Char
  exponent : Option Int

/-- The value of a decimal digit. -/
def digitValue (digit : Char) : Nat := digit.toNat - '0'.toNat

/-- The value of decimal digits. -/
def digitsValue (digits : List Char) : Nat :=
  digits.foldl (fun n digit => n * 10 + digitValue digit) 0

/-- The exponent at the end of a numeral: nothing, or a mark, a sign and digits. -/
def exponent? : List Char → Option (Option Int)
  | [] => some none
  | mark :: rest =>
    if mark = 'e' ∨ mark = 'E' then
      let (negative, digits) :=
        match rest with
        | '-' :: digits => (true, digits)
        | '+' :: digits => (false, digits)
        | digits => (false, digits)
      if digits.isEmpty || !digits.all Char.isDigit then none
      else some (some (if negative then -(digitsValue digits : Int) else digitsValue digits))
    else none

/-- The numeral of a word: a sign, digits without a needless zero in front, then optionally a point
with digits and an exponent. -/
def numeral? (word : List Char) : Option Numeral :=
  let (negative, unsigned) :=
    match word with
    | '-' :: rest => (true, rest)
    | rest => (false, rest)
  let whole := unsigned.takeWhile Char.isDigit
  if whole.isEmpty || (whole.head? == some '0' && whole.length != 1) then none
  else
    match unsigned.dropWhile Char.isDigit with
    | '.' :: rest =>
      let places := rest.takeWhile Char.isDigit
      if places.isEmpty then none
      else do return ⟨negative, whole, places, ← exponent? (rest.dropWhile Char.isDigit)⟩
    | rest => do return ⟨negative, whole, [], ← exponent? rest⟩

/-! ### Values -/

/-- The value of a number with more digits behind it, as far as it fits 64 bits, and how many of the
digits are left over. -/
def significand (value : Nat) : List Char → Nat × Nat
  | [] => (value, 0)
  | digit :: rest =>
    let longer := value * 10 + digitValue digit
    if longer < UInt64.size then significand longer rest else (value, rest.length + 1)

/-- The significand and the power of ten of a numeral. A digit in front of the point that does not
fit raises the power; one behind it is passed over. -/
def Numeral.parts (numeral : Numeral) : Nat × Int :=
  let (value, raised) := significand 0 numeral.whole
  let (value, passed) := significand value numeral.places
  (value, numeral.exponent.getD 0 + raised + passed - numeral.places.length)

/-- The largest power of ten in 64 bits. -/
def maxPower : Nat := 308

/-- A power of ten. -/
def powerOfTen (n : Nat) : Double := Binary.ofNat (Nat.pow 10 n)

/-- A significand times a power of ten. Nothing is left of a significand after the largest power and
another one, so that a negative power is divided by in two steps at most. -/
def scale (significand : Nat) (exponent : Int) : Double :=
  let size : Double := Binary.ofNat significand
  if 0 ≤ exponent then
    if significand = 0 then size
    else if exponent ≤ maxPower then size * powerOfTen exponent.toNat
    else .infinite false
  else
    let down := (-exponent).toNat
    if down ≤ maxPower then size / powerOfTen down
    else size / powerOfTen maxPower / powerOfTen (min (down - maxPower) maxPower)

/-- The numeral is written as digits alone, and its value fits 64 bits, of which one is the sign of
a negative number. The negative zero is no whole number. -/
def Numeral.isWhole (numeral : Numeral) : Bool :=
  let value := digitsValue numeral.whole
  numeral.places.isEmpty && numeral.exponent.isNone &&
    if numeral.negative then decide (0 < value ∧ value ≤ UInt64.size / 2)
    else decide (value < UInt64.size)

/-- The number of a numeral, unless it is out of range. -/
def Numeral.number? (numeral : Numeral) : Option Number :=
  if numeral.isWhole then
    some (.whole (Binary.signed numeral.negative (digitsValue numeral.whole)))
  else
    let (significand, exponent) := numeral.parts
    let size := scale significand exponent
    if size.isFinite then some (.real (if numeral.negative then -size else size)) else none

end SceneMarkup.Json
