import SceneMarkup.Numeric.Arithmetic

/-!
# Numbers in hundredths

Style values show numbers with at most two places.

* `hundredths`: a magnitude in hundredths, rounded from the exact value, a tie to the even one;
* `fixed`: exactly two places, the sign of a negative zero included;
* `compact`: rounded to two places first and written without trailing zeros. A whole number past the
  range of 64 bits is written as the bound of that range.
-/

namespace SceneMarkup.Binary

variable {f : Format}

/-- The magnitude of a number of units in hundredths; a tie goes to the even one. -/
def hundredths (f : Format) (units : Nat) : Nat := roundDiv (units * 100) f.one

/-- A number below a hundred with two digits. -/
def twoDigits (n : Nat) : String := if n < 10 then "0" ++ toString n else toString n

/-- A number with exactly two places. -/
def fixed : Binary f → String
  | .finite negative units _ =>
    let parts := hundredths f units
    (if negative then "-" else "") ++ toString (parts / 100) ++ "." ++ twoDigits (parts % 100)
  | .infinite negative => if negative then "-inf" else "inf"
  | .nan .. => "NaN"

/-- The places after the point of so many hundredths, without trailing zeros. -/
def places (parts : Nat) : String :=
  if parts = 0 then ""
  else if parts % 10 = 0 then "." ++ toString (parts / 10)
  else "." ++ twoDigits parts

/-- A number rounded to the nearest hundredth, a half going away from zero. -/
def toHundredth (x : Binary f) : Binary f := roundHalfAway (x * 100) / 100

/-- The bounds of whole numbers of 64 bits. -/
def wholeBound : Int := ↑(UInt64.size / 2)

/-- A number rounded to two places, without trailing zeros; both zeros are `0`. -/
def compact (x : Binary f) : String :=
  let rounded := x.toHundredth
  match rounded with
  | .nan .. => "NaN"
  | .infinite _ => toString (rounded.truncate (-wholeBound) (wholeBound - 1))
  | .finite negative units _ =>
    if units = 0 then "0"
    else if rounded.isWhole then toString (rounded.truncate (-wholeBound) (wholeBound - 1))
    else
      let parts := hundredths f units
      (if negative then "-" else "") ++ toString (parts / 100) ++ places (parts % 100)

end SceneMarkup.Binary
