import SceneMarkup.Json.Value

/-!
# Fields of a record

A record is a JSON object. Keys that it does not know are passed over, and of a key that repeats the
last one counts. Some readers of JSON let a plain record, such as a color or a rectangle, also be an
array of the values of its fields in their order. That form is left out here: it is read as no
record, and no record is written in it.

* `required`, `defaulted`, `optional`: the readings of a field that must be present, that has a
  default, or that may be absent or null;
* `boolean`, `text`, `single`, `word`, `items`: the readings of single values;
* `name?`: the name that a value is, which may also stand as a key with nothing under it;
* `Keywords`: the names of the values of an enumeration, the name that is written first;
* `exactNumber`: the writing of a number as exactly its value. One that is not finite becomes null.
-/

namespace SceneMarkup.Scene.Codec

variable {α : Type}

/-- The fields of a record. -/
abbrev Fields := List (String × Json)

/-- The fields of an object; an array of values without keys has none. -/
def fields? : Json → Option Fields
  | .object fields => some fields
  | _ => none

/-- A field that must be present. -/
def required (read : Json → Option α) (fields : Fields) (key : String) : Option α :=
  (Json.lookup key fields).bind read

/-- A field with a default. -/
def defaulted (read : Json → Option α) (default : α) (fields : Fields) (key : String) : Option α :=
  match Json.lookup key fields with
  | none => some default
  | some value => read value

/-- A field that may be absent or null. -/
def optional (read : Json → Option α) (fields : Fields) (key : String) : Option (Option α) :=
  match Json.lookup key fields with
  | none | some .null => some none
  | some value => (read value).map some

/-! ### Single values -/

/-- A truth value. -/
def boolean : Json → Option Bool
  | .bool value => some value
  | _ => none

/-- A text. -/
def text : Json → Option String
  | .string text => some text
  | _ => none

/-- A number in 32 bits. A whole number is rounded once, any other number has been rounded to 64
bits before. -/
def single : Json → Option Single
  | .number (.whole value) => some (Binary.ofInt value)
  | .number (.real value) => some value.convert
  | _ => none

/-- A whole number of 32 bits. -/
def word : Json → Option UInt32
  | .number (.whole value) =>
    if 0 ≤ value ∧ value < UInt32.size then some (UInt32.ofNat value.toNat) else none
  | _ => none

/-- A list. -/
def items (read : Json → Option α) : Json → Option (List α)
  | .array items => items.mapM read
  | _ => none

/-! ### Enumerations -/

/-- What stands for nothing under a name that is a key: null, or an empty object as well. -/
inductive Vacant where
  | null
  | nullOrEmpty
  deriving DecidableEq, Repr

/-- The value holds nothing. -/
def Vacant.holds : Vacant → Json → Bool
  | _, .null => true
  | nullOrEmpty, .object [] => true
  | _, _ => false

/-- The name that a value is: a text, or the only key of an object with nothing under it. -/
def name? (under : Vacant) : Json → Option String
  | .string name => some name
  | .object fields =>
    (fields.head?.map Prod.fst).filter fun name =>
      fields.all (·.1 == name) && (Json.lookup name fields).any under.holds
  | _ => none

/-- The names of the values of an enumeration; a value with several is written by the first. -/
abbrev Keywords (α : Type) := List (String × α)

namespace Keywords

/-- The value of a name. -/
def read (keywords : Keywords α) (under : Vacant) (value : Json) : Option α :=
  (name? under value).bind fun name => keywords.lookup name

/-- The name of a value. -/
def name [DecidableEq α] (keywords : Keywords α) (value : α) : String :=
  match keywords.find? (fun keyword => keyword.2 = value) with
  | some keyword => keyword.1
  | none => ""

/-- The name of a value, as a text. -/
def write [DecidableEq α] (keywords : Keywords α) (value : α) : Json :=
  .string (keywords.name value)

end Keywords

/-! ### Numbers -/

/-- A number as exactly its value. -/
def exactNumber (number : Single) : Json :=
  if number.isFinite then .number (.real number.convert) else .null

/-- A list of values. -/
def writeItems (write : α → Json) (values : List α) : Json := .array (values.map write)

end SceneMarkup.Scene.Codec
