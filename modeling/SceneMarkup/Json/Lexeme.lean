import SceneMarkup.Json.Quoted
import SceneMarkup.Json.Value

/-!
# Lexemes of JSON text

* `Lexeme`: a bracket, a separator, or a value without parts;
* `word?`: the value of a word, if it is a numeral, a truth value or null;
* `lexemes`: the lexemes of a text, if it has no others.

Blanks are the space, the tab, the line feed and the carriage return. A run of letters, digits,
signs and points is one word.
-/

namespace SceneMarkup.Json

/-- A piece of JSON text. -/
inductive Lexeme where
  | openArray
  | closeArray
  | openObject
  | closeObject
  | comma
  | colon
  | scalar (value : Json)

/-- The value of a word. -/
def word? (word : List Char) : Option Json :=
  if word = "null".toList then some .null
  else if word = "true".toList then some (.bool true)
  else if word = "false".toList then some (.bool false)
  else do return .number (← (← numeral? word).number?)

/-- A character of words. -/
def isWordChar (c : Char) : Bool := c.isAlphanum || c == '+' || c == '-' || c == '.'

/-- A blank between lexemes. -/
def isBlank (c : Char) : Bool := c == ' ' || c == '\t' || c == '\n' || c == '\r'

/-- Where a scan stands: between lexemes, in a word, or in quotes and there after a backslash or
not. What it has of a lexeme is in reverse. -/
inductive ScanState where
  | between
  | word (read : List Char)
  | quoted (read : List Char) (escaped : Bool)

/-- A scan part way through: where it stands, and the complete lexemes in reverse. -/
structure Scan where
  state : ScanState
  complete : List Lexeme

/-- The lexeme of a character that is one. -/
def mark? : Char → Option Lexeme
  | '[' => some .openArray
  | ']' => some .closeArray
  | '\x7b' => some .openObject
  | '\x7d' => some .closeObject
  | ',' => some .comma
  | ':' => some .colon
  | _ => none

/-- A character between lexemes. -/
def begin? (complete : List Lexeme) (c : Char) : Option Scan :=
  if isBlank c then some ⟨.between, complete⟩
  else if c = '"' then some ⟨.quoted [] false, complete⟩
  else if isWordChar c then some ⟨.word [c], complete⟩
  else (mark? c).map fun lexeme => ⟨.between, lexeme :: complete⟩

/-- One character of a scan. -/
def scanStep (scan : Scan) (c : Char) : Option Scan :=
  match scan.state with
  | .between => begin? scan.complete c
  | .word read =>
    if isWordChar c then some ⟨.word (c :: read), scan.complete⟩
    else do begin? (.scalar (← word? read.reverse) :: scan.complete) c
  | .quoted read true => some ⟨.quoted (c :: read) false, scan.complete⟩
  | .quoted read false =>
    if c = '"' then do
      let text ← Quoted.decode read.reverse
      return ⟨.between, .scalar (.string (String.ofList text)) :: scan.complete⟩
    else some ⟨.quoted (c :: read) (c == '\\'), scan.complete⟩

/-- The lexemes of a scan at the end of its text. -/
def finish (scan : Scan) : Option (List Lexeme) :=
  match scan.state with
  | .between => some scan.complete.reverse
  | .word read => do return (.scalar (← word? read.reverse) :: scan.complete).reverse
  | .quoted .. => none

/-- The lexemes of a text. -/
def lexemes (text : String) : Option (List Lexeme) :=
  text.toList.foldlM scanStep ⟨.between, []⟩ >>= finish

end SceneMarkup.Json
