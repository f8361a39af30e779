import SceneMarkup.Css.Declaration

/-!
# Markup trees

* `Head`: what stands in the opening tag of an element, and the picture in place of its content;
* `Markup`: elements, texts and line breaks;
* `Markup.isInline`, `Markup.allInline`: what is written on one line, so that no blank gets into its
  text.
-/

namespace SceneMarkup

/-- The tag of an element, its classes, its own style, and the picture that it shows. -/
structure Head where
  tag : String
  classes : List String := []
  style : List Css.Declaration := []
  picture : Option String := none
  deriving DecidableEq, Repr, Inhabited

/-- A tree of markup. -/
inductive Markup where
  | element (head : Head) (children : List Markup)
  | text (content : String)
  | lineBreak
  deriving Inhabited

namespace Markup

mutual

/-- Text, a line break, or a span of nothing else. -/
def isInline : Markup → Bool
  | text _ | lineBreak => true
  | element head children => head.tag == "span" && allInline children

/-- Every tree of a list is inline. -/
def allInline : List Markup → Bool
  | [] => true
  | child :: rest => isInline child && allInline rest

end

end Markup

end SceneMarkup
