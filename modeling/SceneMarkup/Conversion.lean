import SceneMarkup.Document.Page
import SceneMarkup.Document.Stylesheet
import SceneMarkup.Emission.Tree
import SceneMarkup.Naming.ComponentName

/-!
# Conversions

A conversion turns the first frame or group of a selection into a document and its stylesheet.

* `ConversionError`: why there is no document. A problem with the selection is shown to the user as
  it is, any other only as a failure;
* `selectRoot`: the node that a selection converts;
* `convert`: the two files of a conversion.
-/

namespace SceneMarkup

open Scene (Node)
open Picture (Assets Exporter)

/-- Why there is no document. -/
inductive ConversionError where
  | selection (reason : String)
  | unexpected (reason : String)
  deriving DecidableEq, Repr

namespace ConversionError

/-- The text of an error. -/
def message : ConversionError → String
  | selection reason => reason
  | unexpected reason => "Export failed: " ++ reason

/-- What the user is shown. -/
def userMessage : ConversionError → String
  | selection reason => reason
  | unexpected _ => "Export failed"

/-- No frame or group is selected. -/
def nothingSelected : ConversionError := selection "Select a frame or group to export"

/-- The root has no auto layout, though it has to. -/
def needsAutoLayout (name : String) : ConversionError :=
  selection ("\"" ++ name ++ "\" must use auto layout to be exported")

/-- A node cannot be placed. -/
def notFinite (id : String) : ConversionError :=
  unexpected ("node " ++ id ++ " has non-finite geometry")

end ConversionError

/-- The first frame or group of a selection. -/
def selectRoot (options : Options) (selection : List Node) : Except ConversionError Node :=
  match selection.find? fun node => node.layer.isContainer with
  | none => .error .nothingSelected
  | some root =>
    if options.requireAutoLayout && !root.layer.isAutoLayout then
      .error (.needsAutoLayout root.layer.name)
    else .ok root

/-- The two files of a conversion. -/
structure Output where
  documentName : String
  document : String
  stylesheetName : String
  stylesheet : String
  deriving DecidableEq, Repr

/-- The name and the text of the document around some markup. -/
def document (options : Options) (sheet : Sheet) (rootName : String) (body : Markup) :
    String × String :=
  match options.dialect with
  | .html =>
    ("index.html", Document.page options sheet.fonts (options.title.getD rootName) body)
  | .jsx =>
    let name := Naming.componentName rootName
    (name ++ ".jsx", Document.componentModule options name body)

/-- The two files of a selection, with pictures from an exporter. -/
def convert (options : Options) (exporter : Exporter) (selection : List Node) :
    Except ConversionError Output := do
  let root ← selectRoot options selection
  let (body, sheet) := Emission.emitRoot options (Assets.fetch exporter root) {} root
  let body ← body.mapError .notFinite
  let (documentName, document) := document options sheet root.layer.name body
  return ⟨documentName, document, options.stylesheetName,
    Document.stylesheet options.dialect sheet⟩

end SceneMarkup
