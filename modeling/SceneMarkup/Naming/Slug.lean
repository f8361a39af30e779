import SceneMarkup.Text.Pieces

/-!
# Slugs of node identifiers

Identifiers of nodes hold colons and semicolons. Their slug is safe in a class name, in an
identifier of a picture and in a file name.

* `isWordChar`: the letters and digits of the first block;
* `slug`: the runs of those, in lower case, with single hyphens between them.
-/

namespace SceneMarkup.Naming

/-- A letter or digit of the first block. -/
def isWordChar (c : Char) : Bool := c.isAlphanum

/-- The maximal runs of letters and digits. -/
def wordsOf (text : List Char) : List (List Char) := Text.words (fun c => !isWordChar c) text

/-- The words of an identifier in lower case, joined by hyphens. -/
def slugChars (id : List Char) : List Char :=
  Text.joined '-' ((wordsOf id).map fun word => word.map Char.toLower)

/-- The words of an identifier in lower case, joined by hyphens. -/
def slug (id : String) : String := String.ofList (slugChars id.toList)

end SceneMarkup.Naming
