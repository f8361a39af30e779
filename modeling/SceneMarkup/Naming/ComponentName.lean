import SceneMarkup.Naming.Slug

/-!
# Component names

* `componentName`: the words of a layer name, each with a capital in front, as one word. `Component`
  stands in front of a digit and for a name without words.
-/

namespace SceneMarkup.Naming

/-- A word with its first letter a capital. -/
def capitalized : List Char → List Char
  | [] => []
  | c :: rest => c.toUpper :: rest

/-- The name of a component. -/
def componentChars (name : List Char) : List Char :=
  match (wordsOf name).flatMap capitalized with
  | [] => "Component".toList
  | c :: rest => if c.isDigit then "Component".toList ++ c :: rest else c :: rest

/-- The name of the component of a layer with a name. -/
def componentName (name : String) : String := String.ofList (componentChars name.toList)

end SceneMarkup.Naming
