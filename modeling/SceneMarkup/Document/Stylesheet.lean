import SceneMarkup.Emission.Sketch
import SceneMarkup.Options

/-!
# The stylesheet

* `stylesheet`: the request for fonts, unless the page makes it, what every page resets, and the
  rules.
-/

namespace SceneMarkup.Document

/-- What every stylesheet resets. -/
def reset : String :=
  "*, *::before, *::after \x7b\n  box-sizing: border-box;\n\x7d\n\nbody, p \x7b\n  margin: 0;\n\x7d\n"

/-- The request for fonts, which a page makes by itself. -/
def fontImport (dialect : Dialect) (sheet : Sheet) : String :=
  match dialect, sheet.fonts.url? with
  | .jsx, some url => "@import url('" ++ url ++ "');\n\n"
  | _, _ => ""

/-- The text of a stylesheet. -/
def stylesheet (dialect : Dialect) (sheet : Sheet) : String :=
  fontImport dialect sheet ++ reset ++
    if sheet.registry.isEmpty then "" else "\n" ++ sheet.registry.css

end SceneMarkup.Document
