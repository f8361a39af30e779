import SceneMarkup.Json.Quoted
import SceneMarkup.Markup.Escape
import SceneMarkup.Markup.Tree

/-!
# Attributes

* `camelCase`: the name of a style property in JSX;
* `styleAttribute`, `classAttribute`: the two attributes in a dialect;
* `openTag`: an opening tag up to its closing bracket.
-/

namespace SceneMarkup.Markup

/-- The rest of a property name, after a hyphen or not. -/
def camelCaseRest (afterHyphen : Bool) : List Char → List Char
  | [] => []
  | c :: rest =>
    if c = '-' then camelCaseRest true rest
    else (if afterHyphen then c.toUpper else c) :: camelCaseRest false rest

/-- A property name with a capital for each hyphen and the letter after it. -/
def camelCase (property : String) : String := String.ofList (camelCaseRest false property.toList)

/-- A declaration as an entry of a JSX style. -/
def jsxEntry (d : Css.Declaration) : String := camelCase d.property ++ ": " ++ quote d.value

/-- The style attribute with a blank in front. -/
def styleAttribute : Dialect → List Css.Declaration → String
  | .html, style =>
    " style=\"" ++ Escape.escape .html ("; ".intercalate (style.map Css.Declaration.text)) ++ "\""
  | .jsx, style => " style=\x7b\x7b " ++ ", ".intercalate (style.map jsxEntry) ++ " \x7d\x7d"

/-- The class attribute with a blank in front. -/
def classAttribute (dialect : Dialect) (classes : List String) : String :=
  let name :=
    match dialect with
    | .html => "class"
    | .jsx => "className"
  " " ++ name ++ "=\"" ++ " ".intercalate classes ++ "\""

/-- An opening tag up to its closing bracket. -/
def openTag (dialect : Dialect) (head : Head) : String :=
  "<" ++ head.tag ++
    (if head.classes.isEmpty then "" else classAttribute dialect head.classes) ++
    (if head.style.isEmpty then "" else styleAttribute dialect head.style)

/-- A closing tag. -/
def closeTag (head : Head) : String := "</" ++ head.tag ++ ">"

end SceneMarkup.Markup
