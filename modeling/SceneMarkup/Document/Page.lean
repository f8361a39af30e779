import SceneMarkup.Markup.Render
import SceneMarkup.Typography.Font

/-!
# Pages and component modules

* `page`: a whole page around its markup;
* `componentModule`: a module with a component of some name that returns its markup.
-/

namespace SceneMarkup.Document

open Typography (FontSet)

/-- A text as the value of an attribute. -/
def attributeText (text : String) : String := Escape.escape .html text

/-- The links of a page to its fonts. -/
def fontLinks (fonts : FontSet) : String :=
  match fonts.url? with
  | none => ""
  | some url =>
    "  <link rel=\"preconnect\" href=\"" ++ FontSet.origin ++ "\" />\n" ++
      "  <link rel=\"preconnect\" href=\"" ++ FontSet.fileOrigin ++ "\" crossorigin />\n" ++
      "  <link rel=\"stylesheet\" href=\"" ++ attributeText url ++ "\" />\n"

/-- A page around its markup. -/
def page (options : Options) (fonts : FontSet) (title : String) (body : Markup) : String :=
  "<!DOCTYPE html>\n<html lang=\"en\">\n<head>\n  <meta charset=\"utf-8\" />\n" ++
    "  <meta name=\"viewport\" content=\"width=device-width, initial-scale=1\" />\n" ++
    "  <title>" ++ attributeText title ++ "</title>\n" ++
    fontLinks fonts ++
    "  <link rel=\"stylesheet\" href=\"" ++ attributeText options.stylesheetName ++ "\" />\n" ++
    "</head>\n<body>\n" ++ Markup.render .html 1 body ++ "</body>\n</html>\n"

/-- A module with a component that returns its markup. -/
def componentModule (options : Options) (name : String) (body : Markup) : String :=
  "import './" ++ options.stylesheetName ++ "';\n\nexport default function " ++ name ++
    "() \x7b\n  return (\n" ++ Markup.render .jsx 2 body ++ "  );\n\x7d\n"

end SceneMarkup.Document
