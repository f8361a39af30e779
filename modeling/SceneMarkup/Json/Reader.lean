import SceneMarkup.Json.Lexeme

/-!
# Reading JSON text

A text is read lexeme by lexeme with the containers that are open.

* `Open`: a container part way through;
* `Expected`: what may come next;
* `ReadState`: the open containers, innermost first, or the finished value;
* `Json.read`: the value of a text, if it is exactly one value and no container is nested deeper
  than a bound.
-/

namespace SceneMarkup.Json

/-- A container part way through, its parts in reverse. -/
inductive Open where
  | array (items : List Json)
  | object (fields : List (String × Json)) (key : String)

/-- What may come next in the innermost container. -/
inductive Expected where
  | value
  | valueOrClose
  | key
  | keyOrClose
  | colon
  | commaOrClose

/-- How far a text is read. -/
inductive ReadState where
  | reading (stack : List Open) (expected : Expected)
  | done (value : Json)

/-- The state after a complete value. -/
def complete (value : Json) : List Open → ReadState
  | [] => .done value
  | .array items :: rest => .reading (.array (value :: items) :: rest) .commaOrClose
  | .object fields key :: rest =>
    .reading (.object ((key, value) :: fields) key :: rest) .commaOrClose

/-- A value begins: a scalar is complete at once, a container is opened while the bound allows
it. -/
def enter (depth : Nat) (stack : List Open) : Lexeme → Option ReadState
  | .scalar value => some (complete value stack)
  | .openArray =>
    if stack.length < depth then some (.reading (.array [] :: stack) .valueOrClose) else none
  | .openObject =>
    if stack.length < depth then some (.reading (.object [] "" :: stack) .keyOrClose) else none
  | _ => none

/-- One lexeme. -/
def readStep (depth : Nat) : ReadState → Lexeme → Option ReadState
  | .done _, _ => none
  | .reading stack .value, lexeme => enter depth stack lexeme
  | .reading (.array [] :: rest) .valueOrClose, .closeArray => some (complete (.array []) rest)
  | .reading stack .valueOrClose, lexeme => enter depth stack lexeme
  | .reading (.object fields _ :: rest) .keyOrClose, .closeObject =>
    some (complete (.object fields.reverse) rest)
  | .reading (.object fields _ :: rest) .keyOrClose, .scalar (.string key)
  | .reading (.object fields _ :: rest) .key, .scalar (.string key) =>
    some (.reading (.object fields key :: rest) .colon)
  | .reading stack .colon, .colon => some (.reading stack .value)
  | .reading (.array items :: rest) .commaOrClose, .comma =>
    some (.reading (.array items :: rest) .value)
  | .reading (.array items :: rest) .commaOrClose, .closeArray =>
    some (complete (.array items.reverse) rest)
  | .reading (.object fields key :: rest) .commaOrClose, .comma =>
    some (.reading (.object fields key :: rest) .key)
  | .reading (.object fields _ :: rest) .commaOrClose, .closeObject =>
    some (complete (.object fields.reverse) rest)
  | _, _ => none

/-- The value of a text whose containers are nested at most `depth` deep. -/
def read (depth : Nat) (text : String) : Option Json := do
  let lexemes ← lexemes text
  match ← lexemes.foldlM (readStep depth) (.reading [] .value) with
  | .done value => some value
  | .reading .. => none

end SceneMarkup.Json
