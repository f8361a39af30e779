import SceneMarkup.Scene.Codec.Frame
import SceneMarkup.Scene.Codec.TextStyle
import SceneMarkup.Scene.Node

/-!
# Records of nodes

The type of a node selects its kind, and the fields of a frame or a text stand next to the others.
Fields of another kind are passed over.

* `readNode`: the node of a record, with its children;
* `writeNode`: the record of a node with every field, numbers in a given form.
-/

namespace SceneMarkup.Scene.Codec

/-! ### Kinds -/

/-- The types of frames; the first is the one that is written. -/
def frameTypes : List String := ["FRAME", "COMPONENT", "INSTANCE", "COMPONENT_SET"]

/-- The types of vectors; the first is the one that is written. -/
def vectorTypes : List String := ["VECTOR", "LINE", "POLYGON", "STAR", "BOOLEAN_OPERATION"]

/-- The kind of a node of some type with some fields. -/
def readKind (fields : Fields) (type : String) : Option Kind :=
  if type ∈ frameTypes then do return .frame (← readFrame .nullOrEmpty fields)
  else if type ∈ vectorTypes then some .vector
  else if type = "GROUP" then some .group
  else if type = "TEXT" then do return .text (← readTextStyle fields)
  else if type = "RECTANGLE" then some .rectangle
  else if type = "ELLIPSE" then some .ellipse
  else none

def kindFields (number : Single → Json) : Kind → Fields
  | .frame frame => ("type", .string "FRAME") :: frameFields number frame
  | .group => [("type", .string "GROUP")]
  | .text style => ("type", .string "TEXT") :: textStyleFields number style
  | .rectangle => [("type", .string "RECTANGLE")]
  | .ellipse => [("type", .string "ELLIPSE")]
  | .vector => [("type", .string "VECTOR")]

/-! ### Layers -/

/-- The layer of the fields of a node. -/
def readLayer (fields : Fields) : Option Layer := do
  return {
    id := ← required text fields "id"
    name := ← defaulted text "" fields "name"
    kind := ← readKind fields (← required text fields "type")
    visible := ← defaulted boolean true fields "visible"
    opacity := ← defaulted single 1 fields "opacity"
    blendMode := ← defaulted (blendModes.read .null) .passThrough fields "blendMode"
    rotation := ← defaulted single 0 fields "rotation"
    x := ← defaulted single 0 fields "x"
    y := ← defaulted single 0 fields "y"
    width := ← defaulted single 0 fields "width"
    height := ← defaulted single 0 fields "height"
    bounds := ← optional readBounds fields "absoluteBoundingBox"
    cornerRadius := ← optional single fields "cornerRadius"
    topLeftRadius := ← optional single fields "topLeftRadius"
    topRightRadius := ← optional single fields "topRightRadius"
    bottomRightRadius := ← optional single fields "bottomRightRadius"
    bottomLeftRadius := ← optional single fields "bottomLeftRadius"
    fills := ← defaulted (items readPaint) [] fields "fills"
    strokes := ← defaulted (items readPaint) [] fields "strokes"
    strokeWeight := ← defaulted single 0 fields "strokeWeight"
    strokeAlign := ← defaulted (strokeAligns.read .null) .center fields "strokeAlign"
    effects := ← defaulted (items readEffect) [] fields "effects"
    isMask := ← defaulted boolean false fields "isMask"
    maskType := ← defaulted (maskTypes.read .null) .alpha fields "maskType"
    positioning := ← defaulted (positionings.read .null) .auto fields "layoutPositioning"
    constraints := ← defaulted readConstraints {} fields "constraints"
    sizingHorizontal := ← optional (sizings.read .null) fields "layoutSizingHorizontal"
    sizingVertical := ← optional (sizings.read .null) fields "layoutSizingVertical"
    grow := ← defaulted single 0 fields "layoutGrow"
    crossAlign := ← defaulted readCrossAlign .inherit fields "layoutAlign" }

/-- The fields of a layer. -/
def layerFields (number : Single → Json) (layer : Layer) : Fields :=
  [("id", .string layer.id), ("name", .string layer.name)] ++
  kindFields number layer.kind ++
  [("visible", .bool layer.visible),
    ("opacity", number layer.opacity),
    ("blendMode", blendModes.write layer.blendMode),
    ("rotation", number layer.rotation),
    ("x", number layer.x),
    ("y", number layer.y),
    ("width", number layer.width),
    ("height", number layer.height),
    ("absoluteBoundingBox", Json.ofOption (writeBounds number) layer.bounds),
    ("cornerRadius", Json.ofOption number layer.cornerRadius),
    ("topLeftRadius", Json.ofOption number layer.topLeftRadius),
    ("topRightRadius", Json.ofOption number layer.topRightRadius),
    ("bottomRightRadius", Json.ofOption number layer.bottomRightRadius),
    ("bottomLeftRadius", Json.ofOption number layer.bottomLeftRadius),
    ("fills", writeItems (writePaint number) layer.fills),
    ("strokes", writeItems (writePaint number) layer.strokes),
    ("strokeWeight", number layer.strokeWeight),
    ("strokeAlign", strokeAligns.write layer.strokeAlign),
    ("effects", writeItems (writeEffect number) layer.effects),
    ("isMask", .bool layer.isMask),
    ("maskType", maskTypes.write layer.maskType),
    ("layoutPositioning", positionings.write layer.positioning),
    ("constraints", writeConstraints layer.constraints),
    ("layoutSizingHorizontal", Json.ofOption sizings.write layer.sizingHorizontal),
    ("layoutSizingVertical", Json.ofOption sizings.write layer.sizingVertical),
    ("layoutGrow", number layer.grow),
    ("layoutAlign", writeCrossAlign layer.crossAlign)]

/-! ### Nodes -/

mutual

/-- The node of a record. -/
def readNode : Json → Option Node
  | .object fields => do
    let layer ← readLayer fields
    return .mk layer (← readChildren fields)
  | _ => none

/-- The children among the fields of a node: the last field of that key. -/
def readChildren : Fields → Option (List Node)
  | [] => some []
  | (key, value) :: rest =>
    if (Json.lookup "children" rest).isSome then readChildren rest
    else if key = "children" then
      match value with
      | .array items => readNodes items
      | _ => none
    else some []

/-- The nodes of a list of records. -/
def readNodes : List Json → Option (List Node)
  | [] => some []
  | item :: rest => do return (← readNode item) :: (← readNodes rest)

end

mutual

/-- The record of a node. -/
def writeNode (number : Single → Json) : Node → Json
  | .mk layer children =>
    .object (layerFields number layer ++ [("children", .array (writeNodes number children))])

/-- The records of a list of nodes. -/
def writeNodes (number : Single → Json) : List Node → List Json
  | [] => []
  | node :: rest => writeNode number node :: writeNodes number rest

end

end SceneMarkup.Scene.Codec
