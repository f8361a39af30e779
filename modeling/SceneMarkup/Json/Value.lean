import SceneMarkup.Json.Number

/-!
# JSON values

* `Json`: a value; an object keeps its fields in order, repeated keys included;
* `Json.lookup`: the value of a key, the last one if the key repeats;
* `Json.nat`, `Json.strings`: shorthands for values that are written often.
-/

namespace SceneMarkup

/-- A JSON value. -/
inductive Json where
  | null
  | bool (value : Bool)
  | number (value : Json.Number)
  | string (text : String)
  | array (items : List Json)
  | object (fields : List (String × Json))
  deriving Inhabited

namespace Json

/-- The value of a key in a list of fields: the last one, if the key repeats. -/
def lookup (key : String) : List (String × Json) → Option Json
  | [] => none
  | (name, value) :: rest =>
    match lookup key rest with
    | some later => some later
    | none => if name = key then some value else none

@[simp] theorem lookup_nil (key : String) : lookup key [] = none := rfl

theorem lookup_cons (key name : String) (value : Json) (rest : List (String × Json)) :
    lookup key ((name, value) :: rest) =
      (lookup key rest).or (if name = key then some value else none) := by
  simp only [lookup]
  cases lookup key rest <;> rfl

/-- The value of a key in an object; a value that is no object has no keys. -/
def get? (value : Json) (key : String) : Option Json :=
  match value with
  | .object fields => lookup key fields
  | _ => none

/-- A natural number. -/
def nat (n : Nat) : Json := .number (.whole n)

/-- An integer. -/
def int (n : Int) : Json := .number (.whole n)

/-- A list of texts. -/
def strings (texts : List String) : Json := .array (texts.map .string)

/-- A value, or null. -/
def ofOption {α : Type} (write : α → Json) : Option α → Json
  | some value => write value
  | none => .null

end Json

end SceneMarkup
