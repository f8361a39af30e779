import SceneMarkup.Json.Quoted
import SceneMarkup.Json.Value

/-!
# Writing JSON text

* `Json.write`: the text of a value, without blanks. A number that is not whole is written with all
  its digits: its units times a power of five, over the same power of ten.
-/

namespace SceneMarkup.Json

/-- The numeral of a number. One that is not finite has none. -/
def writeNumber : Number → String
  | .whole value => toString value
  | .real (.finite negative units _) =>
    (if negative then "-" else "") ++ toString (units * Nat.pow 5 Format.double.unitBits) ++ "e-" ++
      toString Format.double.unitBits
  | .real _ => "null"

mutual

/-- The text of a value. -/
def write : Json → String
  | .null => "null"
  | .bool value => if value then "true" else "false"
  | .number value => writeNumber value
  | .string text => quote text
  | .array items => "[" ++ ",".intercalate (writeItems items) ++ "]"
  | .object fields => "\x7b" ++ ",".intercalate (writeFields fields) ++ "\x7d"

/-- The texts of the items of an array. -/
def writeItems : List Json → List String
  | [] => []
  | item :: rest => write item :: writeItems rest

/-- The texts of the fields of an object. -/
def writeFields : List (String × Json) → List String
  | [] => []
  | (key, value) :: rest => (quote key ++ ":" ++ write value) :: writeFields rest

end

end SceneMarkup.Json
