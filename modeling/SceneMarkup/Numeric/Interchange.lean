import SceneMarkup.Numeric.Arithmetic

/-!
# Interchange codes

The code of a number is its bits read as a natural number: the sign, the exponent and the fraction.
Without the sign the codes of the finite magnitudes count them in ascending order from zero.

* `code`: the code of a number;
* `ofCode`: the number of a code.
-/

namespace SceneMarkup

namespace Format

variable (f : Format)

/-- The code of the sign bit. -/
def signCode : Nat := Nat.pow 2 (f.exponentBits + f.fractionBits)

/-- The code of infinity. -/
def infinityCode : Nat := (Nat.pow 2 f.exponentBits - 1) * Nat.pow 2 f.fractionBits

end Format

namespace Binary

variable {f : Format}

/-- The code of a magnitude in units. -/
def magnitudeCode (f : Format) (units : Nat) : Nat :=
  let step := units.log2 - f.fractionBits
  if units < Nat.pow 2 f.fractionBits then units
  else step * Nat.pow 2 f.fractionBits + units / Nat.pow 2 step

/-- The bits of a number. -/
def code : Binary f → Nat
  | .finite negative units _ => (if negative then f.signCode else 0) + magnitudeCode f units
  | .infinite negative => (if negative then f.signCode else 0) + f.infinityCode
  | .nan negative payload => (if negative then f.signCode else 0) + f.infinityCode + payload.val

/-- The number with the given bits; bits above the sign do not count. -/
def ofCode (code : Nat) : Binary f :=
  let negative := code / f.signCode % 2 == 1
  let exponent := code % f.signCode / Nat.pow 2 f.fractionBits
  let fraction := code % Nat.pow 2 f.fractionBits
  if f.infinityCode ≤ code % f.signCode then
    if fraction = 0 then .infinite negative else .nan negative (payload f fraction)
  else if exponent = 0 then round negative fraction 1
  else round negative ((Nat.pow 2 f.fractionBits + fraction) * Nat.pow 2 (exponent - 1)) 1

end Binary

end SceneMarkup
