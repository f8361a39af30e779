import SceneMarkup.Css.Quantity
import SceneMarkup.Stylesheet.Registry

/-!
# Utilities for layout

A utility is a class with one purpose that all nodes share.

* `fixed`: a utility whose key is its name;
* `lengthUtility`: a utility for a length. It is known by the length as it is written and named for
  the length as a whole number, so lengths that differ keep rules of their own;
* `classNumber`: a length as part of a class name;
* `roundsToZero`: a length that is not worth a rule.
-/

namespace SceneMarkup.Layout

open Css (Declaration px)

/-- A utility that is known by its name. -/
def fixed (name : String) (declarations : List Declaration) : Request :=
  .utility name name declarations

/-- A length as a whole number that may stand in a class name. -/
def classNumber (length : Single) : String :=
  let whole := length.roundHalfAway.truncate (-Binary.wholeBound) (Binary.wholeBound - 1)
  if whole < 0 then "neg-" ++ toString whole.natAbs else toString whole

/-- A utility that sets a length. -/
def lengthUtility (name property : String) (length : Single) : Request :=
  .utility (name ++ "-" ++ length.compact) (name ++ "-" ++ classNumber length)
    [⟨property, px length⟩]

/-- A length whose nearest whole number is zero. -/
def roundsToZero (length : Single) : Bool := length.roundHalfAway.equals 0

/-- A utility for a length, unless the length rounds to zero. -/
def lengthUtility? (name property : String) (length : Single) : List Request :=
  if roundsToZero length then [] else [lengthUtility name property length]

end SceneMarkup.Layout
