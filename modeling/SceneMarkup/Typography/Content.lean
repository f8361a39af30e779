import SceneMarkup.Appearance.Fill
import SceneMarkup.Emission.Sketch
import SceneMarkup.Layout.Utility

/-!
# The content of texts

* `lines`: the lines of a text with breaks between them;
* `paragraphRequest`: the utility that keeps paragraphs apart;
* `textContent`: the content of a text node. Runs with a paint become spans; else, where paragraphs
  have room between them, each is a span; else line ends become breaks.
-/

namespace SceneMarkup.Typography

open Scene (Segment TextStyle)

/-- The lines of a text. -/
def linesOf (text : String) : List (List Char) := Text.pieces (· == '\n') text.toList

/-- A text, unless it is empty. -/
def textSketch (text : List Char) : List Sketch :=
  if text.isEmpty then [] else [.text (String.ofList text)]

/-- The lines of a text with breaks between them; an empty line is none. -/
def brokenLines : List (List Char) → List Sketch
  | [] => []
  | [line] => textSketch line
  | line :: rest => textSketch line ++ .lineBreak :: brokenLines rest

/-- The lines of a text with breaks between them. -/
def lines (text : String) : List Sketch := brokenLines (linesOf text)

/-- A run of letters: in a span, if it has a paint. -/
def segmentSketch (options : Options) (segment : Segment) : List Sketch :=
  let paint := Appearance.textPaint options segment.fills
  if paint.isEmpty then lines segment.characters
  else [.element { tag := "span", style := paint } (lines segment.characters)]

/-- The utility that keeps paragraphs apart. -/
def paragraphRequest (spacing : Single) : Request :=
  .utility ("paragraph-" ++ spacing.compact) ("paragraph-" ++ Layout.classNumber spacing)
    [⟨"display", "block"⟩, ⟨"margin-bottom", Css.px spacing⟩]

/-- A paragraph; the last one needs no room after it. -/
def paragraphSketch (extra : List Request) (paragraph : List Char) : Sketch :=
  .element { tag := "span", styling := { extra } } (textSketch paragraph)

/-- Paragraphs with room between them. -/
def paragraphs (request : Request) : List (List Char) → List Sketch
  | [] => []
  | [last] => [paragraphSketch [] last]
  | paragraph :: rest => paragraphSketch [request] paragraph :: paragraphs request rest

/-- The paragraphs of a text have room between them. -/
def hasParagraphs (text : TextStyle) : Bool :=
  decide (0 < text.paragraphSpacing) && decide (1 < (linesOf text.characters).length)

/-- The content of a text node. -/
def textContent (options : Options) (text : TextStyle) : List Sketch :=
  if !text.segments.isEmpty then text.segments.flatMap (segmentSketch options)
  else if hasParagraphs text then
    paragraphs (paragraphRequest text.paragraphSpacing) (linesOf text.characters)
  else lines text.characters

end SceneMarkup.Typography
