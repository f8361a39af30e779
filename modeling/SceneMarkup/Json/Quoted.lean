/-!
# Quoted strings

The written form of a text inside double quotes, and back.

* `Quoted.encode`: the written form. A quote, a backslash and the control characters below the blank
  are escaped, all else stands for itself;
* `Quoted.decode`: the text of a written form, if it is one. It also accepts an escaped slash and
  the four-digit escape of any character, beyond the first plane as two surrogates;
* `quote`: a text with its quotes.
-/

namespace SceneMarkup

namespace Quoted

/-- A hexadecimal digit, in lower case. -/
def hexDigit (n : Nat) : Char :=
  if n < 10 then Char.ofNat ('0'.toNat + n) else Char.ofNat ('a'.toNat + (n - 10))

/-- The value of a hexadecimal digit of either case. -/
def hexValue? (c : Char) : Option Nat :=
  if '0' ≤ c ∧ c ≤ '9' then some (c.toNat - '0'.toNat)
  else if 'a' ≤ c ∧ c ≤ 'f' then some (c.toNat - 'a'.toNat + 10)
  else if 'A' ≤ c ∧ c ≤ 'F' then some (c.toNat - 'A'.toNat + 10)
  else none

/-- The escapes of one letter: the letter, and the character that it stands for. -/
def shortEscapes : List (Char × Char) :=
  [('"', '"'), ('\\', '\\'), ('b', '\x08'), ('f', '\x0c'), ('n', '\n'), ('r', '\r'), ('t', '\t')]

/-- The written form of a character. -/
def encodeChar (c : Char) : List Char :=
  match shortEscapes.find? (fun escape => escape.2 == c) with
  | some (letter, _) => ['\\', letter]
  | none =>
    if c < ' ' then ['\\', 'u', '0', '0', hexDigit (c.toNat / 16), hexDigit (c.toNat % 16)] else [c]

/-- The written form of a text, without its quotes. -/
def encode (text : List Char) : List Char := text.flatMap encodeChar

/-- A piece of a written form: a character, or a 16-bit unit given by its digits. -/
inductive Piece where
  | char (c : Char)
  | unit (value : Nat)

/-- The pieces of a written form, if every escape in it is complete. -/
def pieces : List Char → Option (List Piece)
  | [] => some []
  | '\\' :: 'u' :: a :: b :: c :: d :: rest => do
    let a ← hexValue? a
    let b ← hexValue? b
    let c ← hexValue? c
    let d ← hexValue? d
    return .unit (((a * 16 + b) * 16 + c) * 16 + d) :: (← pieces rest)
  | '\\' :: letter :: rest => do
    let c ← (('/', '/') :: shortEscapes).lookup letter
    return .char c :: (← pieces rest)
  | c :: rest => if c = '\\' ∨ c = '"' ∨ c < ' ' then none else return .char c :: (← pieces rest)

/-- The first unit of a character beyond the first plane. -/
def isHighSurrogate (unit : Nat) : Bool := 0xD800 ≤ unit && unit < 0xDC00

/-- The second unit of a character beyond the first plane. -/
def isLowSurrogate (unit : Nat) : Bool := 0xDC00 ≤ unit && unit < 0xE000

/-- The text of pieces, if their surrogates come in pairs. -/
def join : List Piece → Option (List Char)
  | [] => some []
  | .char c :: rest => do return c :: (← join rest)
  | .unit high :: .unit low :: rest =>
    if isHighSurrogate high then
      if isLowSurrogate low then do
        return Char.ofNat (0x10000 + (high - 0xD800) * 0x400 + (low - 0xDC00)) :: (← join rest)
      else none
    else if isLowSurrogate high then none
    else do return Char.ofNat high :: (← join (.unit low :: rest))
  | .unit value :: rest =>
    if isHighSurrogate value || isLowSurrogate value then none
    else do return Char.ofNat value :: (← join rest)

/-- The text of a written form. -/
def decode (written : List Char) : Option (List Char) := pieces written >>= join

end Quoted

/-- A text in quotes. -/
def quote (text : String) : String :=
  String.ofList ('"' :: Quoted.encode text.toList ++ ['"'])

end SceneMarkup
