/-!
# Style declarations

* `Declaration`: a property and its value;
* `Declaration.text`, `Declaration.line`: the two written forms, without and with a terminator;
* `unseen`, `lastOfEach`: the last declaration of every property, in their own order, which is what
  the cascade leaves of a list. One pass from the end keeps what sets a property that was not seen
  yet.
-/

namespace SceneMarkup.Css

/-- A property and its value. -/
structure Declaration where
  property : String
  value : String
  deriving DecidableEq, Repr, Inhabited

namespace Declaration

/-- The declaration as it stands in a style attribute. -/
def text (d : Declaration) : String := d.property ++ ": " ++ d.value

/-- The declaration as it stands on a line of a rule. -/
def line (d : Declaration) : String := d.text ++ ";"

end Declaration

/-- Some declaration of the list sets the property. -/
def declares (list : List Declaration) (property : String) : Bool :=
  list.any fun d => d.property == property

/-- A pass that keeps the declarations of properties that it has not seen yet. -/
def unseen (seen : List String) : List Declaration → List Declaration
  | [] => []
  | d :: rest =>
    if seen.contains d.property then unseen seen rest else d :: unseen (d.property :: seen) rest

/-- The declarations that no later one of their property overrides: the pass begins at the end. -/
def lastOfEach (list : List Declaration) : List Declaration := (unseen [] list.reverse).reverse

/-- The lines of a rule. -/
def lines (list : List Declaration) : List String := list.map Declaration.line

end SceneMarkup.Css
