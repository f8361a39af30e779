import SceneMarkup.Scene.Paint

/-!
# Texts

* `TextStyle`: the characters of a text node and how they are set;
* `Segment`: a run of characters with a paint of its own.
-/

namespace SceneMarkup.Scene

/-- A font: its family, and the style that names weight and slant. -/
structure FontName where
  family : String := "Inter"
  style : String := "Regular"
  deriving DecidableEq, Repr

/-- The height of a line. -/
inductive LineHeight where
  | auto
  | percent (value : Single)
  | pixels (value : Single)
  deriving DecidableEq

/-- The room between letters. -/
inductive LetterSpacing where
  | percent (value : Single)
  | pixels (value : Single)
  deriving DecidableEq

/-- Where lines lie in their box. -/
inductive TextAlign where
  | left
  | center
  | right
  | justified
  deriving DecidableEq, Repr

/-- The case that letters are shown in. -/
inductive TextCase where
  | unchanged
  | upper
  | lower
  | title
  | smallCaps
  deriving DecidableEq, Repr

/-- A line at the letters. -/
inductive TextDecoration where
  | none
  | underline
  | strikethrough
  deriving DecidableEq, Repr

/-- Which sides of its box a text moves. -/
inductive AutoResize where
  | none
  | widthAndHeight
  | height
  | truncate
  deriving DecidableEq, Repr

/-- A run of characters with a paint of its own. -/
structure Segment where
  characters : String
  fills : List Paint := []
  deriving DecidableEq

/-- The characters of a text node and how they are set. -/
structure TextStyle where
  characters : String := ""
  font : FontName := {}
  fontSize : Single := 12
  lineHeight : LineHeight := .auto
  letterSpacing : LetterSpacing := .pixels 0
  align : TextAlign := .left
  case : TextCase := .unchanged
  decoration : TextDecoration := .none
  paragraphSpacing : Single := 0
  autoResize : AutoResize := .none
  /-- Present only where the paint varies along the text. -/
  segments : List Segment := []
  deriving DecidableEq

end SceneMarkup.Scene
