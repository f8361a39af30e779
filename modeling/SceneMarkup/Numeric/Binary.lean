import SceneMarkup.Numeric.Format

/-!
# Binary floating-point numbers

A number of a format is finite, infinite or not a number. A finite one is a sign and a magnitude in
units of the format, so its exact value is the whole number `toUnits` over `one` units.

* `Binary`: the numbers of a format; `Single` and `Double` are the two in use;
* `Binary.round`: the number nearest to an exact quotient of units, infinite past the limit;
* `round_of_holds`: rounding leaves a magnitude of the format alone;
* `Binary.ofNat`, `Binary.ofInt`, `Binary.ofRatio`: the numbers nearest to exact ones.

A result that is not a number has a sign and a payload, which show in its interchange code. An
operation that has no answer gives `Binary.undefined`.
-/

namespace SceneMarkup

/-- A floating-point number of the format `f`. -/
inductive Binary (f : Format) where
  /-- A sign and a magnitude in units. -/
  | finite (negative : Bool) (units : Nat) (holds : f.Holds units)
  | infinite (negative : Bool)
  | nan (negative : Bool) (payload : Fin (Nat.pow 2 f.fractionBits))
  deriving DecidableEq

/-- Numbers of 32 bits. -/
abbrev Single := Binary .single

/-- Numbers of 64 bits. -/
abbrev Double := Binary .double

namespace Binary

variable {f g : Format}

/-- The zero of a sign. -/
def zero (negative : Bool) : Binary f := .finite negative 0 f.holds_zero

/-- The number nearest to `num / den` units; a tie goes to the even significand. -/
def round (negative : Bool) (num den : Nat) : Binary f :=
  if small : f.nearest num den < f.limit then
    .finite negative (f.nearest num den) (f.holds_nearest small)
  else .infinite negative

theorem round_of_holds (negative : Bool) {n : Nat} (holds : f.Holds n) :
    round negative n 1 = .finite negative n holds := by
  unfold round
  simp only [f.nearest_of_holds holds, holds.1, ↓reduceDIte]

/-- The payload of the low bits of a natural number. -/
def payload (f : Format) (n : Nat) : Fin (Nat.pow 2 f.fractionBits) :=
  ⟨n % Nat.pow 2 f.fractionBits, Nat.mod_lt _ (Nat.two_pow_pos _)⟩

/-- The payload bit that marks a number which is not one as harmless. -/
def quietBit (f : Format) : Fin (Nat.pow 2 f.fractionBits) :=
  payload f (Nat.pow 2 (f.fractionBits - 1))

/-- The answer of an operation that has none. -/
def undefined : Binary f := .nan true (quietBit f)

/-- What an operation makes of an argument that is not a number: the same, marked harmless. -/
def quiet : Binary f → Binary f
  | .nan negative payload => .nan negative (payload ||| quietBit f)
  | x => x

/-- A whole number with a sign. -/
def signed (negative : Bool) (n : Nat) : Int := if negative then -n else n

/-- The exact value of a finite number, in units; zero for the others. -/
def toUnits : Binary f → Int
  | .finite negative units _ => signed negative units
  | _ => 0

/-- The number nearest to `num / den`. -/
def ofRatio (num den : Nat) : Binary f := round false (num * f.one) den

/-- The number nearest to a natural number. -/
def ofNat (n : Nat) : Binary f := ofRatio n 1

/-- The number nearest to an integer. -/
def ofInt (n : Int) : Binary f := round (n < 0) (n.natAbs * f.one) 1

instance (n : Nat) : OfNat (Binary f) n := ⟨ofNat n⟩

/-- A decimal literal is the number nearest to it. -/
instance : OfScientific (Binary f) where
  ofScientific digits down exponent :=
    if down then ofRatio digits (Nat.pow 10 exponent) else ofRatio (digits * Nat.pow 10 exponent) 1

instance : Inhabited (Binary f) := ⟨zero false⟩

/-- Neither infinite nor undefined. -/
def isFinite : Binary f → Bool
  | .finite .. => true
  | _ => false

/-- The number of another format nearest to this one. -/
def convert : Binary f → Binary g
  | .finite negative units _ => round negative (units * g.one) f.one
  | .infinite negative => .infinite negative
  | .nan negative _ => .nan negative (quietBit g)

end Binary

end SceneMarkup
