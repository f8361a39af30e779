import SceneMarkup.Markup.Attribute

/-!
# Rendering

* `renderInline`: a tree on one line;
* `render`: a tree on lines of its own, two blanks deeper at each level. An element that shows a
  picture shows nothing else; one without content closes itself in JSX; phrasing content stays on
  one line.
-/

namespace SceneMarkup.Markup

/-- The blanks in front of a line. -/
def indent (depth : Nat) : String := String.ofList (List.replicate (2 * depth) ' ')

mutual

/-- A tree on one line. -/
def renderInline (dialect : Dialect) : Markup → String
  | text content => Escape.escape dialect content
  | lineBreak => "<br />"
  | element head children =>
    openTag dialect head ++ ">" ++ renderLine dialect children ++ closeTag head

/-- Trees on one line, one after the other. -/
def renderLine (dialect : Dialect) : List Markup → String
  | [] => ""
  | child :: rest => renderInline dialect child ++ renderLine dialect rest

end

/-- An element that shows a picture. -/
def renderPicture (dialect : Dialect) (depth : Nat) (head : Head) (picture : String) : String :=
  match dialect with
  | .html =>
    openTag dialect head ++ ">\n" ++ indent (depth + 1) ++ picture ++ "\n" ++ indent depth ++
      closeTag head ++ "\n"
  | .jsx =>
    openTag dialect head ++ " dangerouslySetInnerHTML=\x7b\x7b __html: " ++ quote picture ++
      " \x7d\x7d />\n"

/-- An element without content. -/
def renderEmpty (dialect : Dialect) (head : Head) : String :=
  match dialect with
  | .html => openTag dialect head ++ ">" ++ closeTag head ++ "\n"
  | .jsx => openTag dialect head ++ " />\n"

mutual

/-- A tree on lines of its own. -/
def render (dialect : Dialect) (depth : Nat) : Markup → String
  | text content => indent depth ++ Escape.escape dialect content ++ "\n"
  | lineBreak => indent depth ++ "<br />\n"
  | element head children =>
    indent depth ++
      match head.picture with
      | some picture => renderPicture dialect depth head picture
      | none =>
        if children.isEmpty then renderEmpty dialect head
        else if allInline children then
          openTag dialect head ++ ">" ++ renderLine dialect children ++ closeTag head ++ "\n"
        else
          openTag dialect head ++ ">\n" ++ renderLines dialect (depth + 1) children ++
            indent depth ++ closeTag head ++ "\n"

/-- Trees on lines of their own, one after the other. -/
def renderLines (dialect : Dialect) (depth : Nat) : List Markup → String
  | [] => ""
  | child :: rest => render dialect depth child ++ renderLines dialect depth rest

end

end SceneMarkup.Markup
