import SceneMarkup.Options

/-!
# Escaped text

* `Escape.entity?`: the entity that stands for a reserved character in a dialect;
* `Escape.escape`: a text with entities for its reserved characters.

Both dialects reserve the ampersand, the angle brackets and the quotes; JSX reserves braces too.
-/

namespace SceneMarkup.Escape

/-- The entity of a reserved character. -/
def entity? (dialect : Dialect) (c : Char) : Option String :=
  if c = '&' then some "&amp;"
  else if c = '<' then some "&lt;"
  else if c = '>' then some "&gt;"
  else if c = '"' then some "&quot;"
  else if c = '\x27' then some "&#39;"
  else if dialect = .jsx ∧ c = '\x7b' then some "&#123;"
  else if dialect = .jsx ∧ c = '\x7d' then some "&#125;"
  else none

/-- What a character is written as. -/
def escapeChar (dialect : Dialect) (c : Char) : List Char :=
  match entity? dialect c with
  | some entity => entity.toList
  | none => [c]

/-- A text with entities for its reserved characters. -/
def escapeChars (dialect : Dialect) (text : List Char) : List Char :=
  text.flatMap (escapeChar dialect)

/-- A text with entities for its reserved characters. -/
def escape (dialect : Dialect) (text : String) : String :=
  String.ofList (escapeChars dialect text.toList)

@[simp] theorem escapeChars_append (dialect : Dialect) (s t : List Char) :
    escapeChars dialect (s ++ t) = escapeChars dialect s ++ escapeChars dialect t :=
  List.flatMap_append

end SceneMarkup.Escape
