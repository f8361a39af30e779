import SceneMarkup.Naming.Slug
import SceneMarkup.Unicode.LowerCase
import SceneMarkup.Unicode.WhiteSpace

/-!
# Class names from layer names

A layer name becomes the base of a class name: in lower case, its words joined by hyphens, without
what a class name may not hold and without hyphens around it. A base never begins with a digit and
is never empty.

* `isClassChar`: the characters that a base keeps;
* `baseName`: the base name of a layer with an identifier;
* `hyphenTrimmed`: a text without the hyphens around it.
-/

namespace SceneMarkup.Naming

/-- A character that a class name keeps. -/
def isClassChar (c : Char) : Bool := c.isLower || c.isDigit || c == '-' || c == '_'

/-- A text without the hyphens around it. -/
def hyphenTrimmed (text : List Char) : List Char :=
  ((text.dropWhile (· == '-')).reverse.dropWhile (· == '-')).reverse

/-- The characters of a layer name that a class name can show: its words in lower case, of the
characters that are kept, with hyphens between them. -/
def shownChars (name : List Char) : List Char :=
  let kept := (Unicode.lowerCase name).filter fun c => isClassChar c || Unicode.isWhiteSpace c
  hyphenTrimmed (Text.joined '-' (Text.words Unicode.isWhiteSpace kept))

/-- The base of a layer whose name shows nothing. -/
def nodeChars (id : List Char) : List Char :=
  Text.joined '-' ("node".toList :: [slugChars id].filter fun slug => !slug.isEmpty)

/-- A base that may begin with a digit, made into one that does not. -/
def withoutLeadingDigit (base : List Char) : List Char :=
  match base with
  | c :: _ => if c.isDigit then 'n' :: '-' :: base else base
  | [] => []

/-- The base of the class name of a layer. -/
def baseChars (name id : List Char) : List Char :=
  let shown := shownChars name
  withoutLeadingDigit (if shown.isEmpty then nodeChars id else shown)

/-- The base of the class name of a layer with a name and an identifier. -/
def baseName (name id : String) : String := String.ofList (baseChars name.toList id.toList)

end SceneMarkup.Naming
