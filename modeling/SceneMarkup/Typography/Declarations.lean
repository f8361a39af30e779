import SceneMarkup.Appearance.Fill
import SceneMarkup.Typography.Font

/-!
# The style of texts

* `textDeclarations`: how the letters of a text node are set, and their paint unless runs of letters
  have their own.
-/

namespace SceneMarkup.Typography

open Scene (Layer TextStyle)
open Css (Declaration percent px)

def weightDeclarations (style : String) : List Declaration :=
  (if weight style = regularWeight then [] else [⟨"font-weight", toString (weight style)⟩]) ++
    if isItalic style then [⟨"font-style", "italic"⟩] else []

def lineHeightDeclarations : Scene.LineHeight → List Declaration
  | .auto => []
  | .percent value => [⟨"line-height", percent value⟩]
  | .pixels value => [⟨"line-height", px value⟩]

/-- A percentage of the room between letters is a share of their size. -/
def letterSpacingDeclarations : Scene.LetterSpacing → List Declaration
  | .percent value =>
    if value.equals 0 then [] else [⟨"letter-spacing", (value / 100).compact ++ "em"⟩]
  | .pixels value => if value.equals 0 then [] else [⟨"letter-spacing", px value⟩]

def alignDeclarations : Scene.TextAlign → List Declaration
  | .left => []
  | .center => [⟨"text-align", "center"⟩]
  | .right => [⟨"text-align", "right"⟩]
  | .justified => [⟨"text-align", "justify"⟩]

def caseDeclarations : Scene.TextCase → List Declaration
  | .unchanged => []
  | .upper => [⟨"text-transform", "uppercase"⟩]
  | .lower => [⟨"text-transform", "lowercase"⟩]
  | .title => [⟨"text-transform", "capitalize"⟩]
  | .smallCaps => [⟨"font-variant", "small-caps"⟩]

def decorationDeclarations : Scene.TextDecoration → List Declaration
  | .none => []
  | .underline => [⟨"text-decoration", "underline"⟩]
  | .strikethrough => [⟨"text-decoration", "line-through"⟩]

/-- A text that grows with its letters never breaks; one that is cut off shows so. -/
def overflowDeclarations : Scene.AutoResize → List Declaration
  | .none | .height => []
  | .widthAndHeight => [⟨"white-space", "nowrap"⟩]
  | .truncate =>
    [⟨"overflow", "hidden"⟩, ⟨"text-overflow", "ellipsis"⟩, ⟨"white-space", "nowrap"⟩]

/-- How the letters of a text node are set and painted. -/
def textDeclarations (options : Options) (layer : Layer) (text : TextStyle) : List Declaration :=
  [⟨"font-family", "\"" ++ text.font.family ++ "\", sans-serif"⟩] ++
    weightDeclarations text.font.style ++
    lineHeightDeclarations text.lineHeight ++
    letterSpacingDeclarations text.letterSpacing ++
    alignDeclarations text.align ++
    caseDeclarations text.case ++
    decorationDeclarations text.decoration ++
    overflowDeclarations text.autoResize ++
    if text.segments.isEmpty then Appearance.textPaint options layer.fills else []

end SceneMarkup.Typography
