import SceneMarkup.Scene.Codec.Field
import SceneMarkup.Scene.Frame

/-!
# Records of frames and of places

* `readFrame`, `frameFields`: a frame among the fields of a record;
* `readBounds`, `readConstraints` and their writings. Both are objects; an array of the bare numbers
  or names is not read.
-/

namespace SceneMarkup.Scene.Codec

/-! ### Places -/

/-- The names of constraints. One that scales keeps the distance to the near edge. -/
def constraintNames : Keywords Constraint :=
  [("MIN", .min), ("MAX", .max), ("CENTER", .center), ("STRETCH", .stretch), ("SCALE", .min)]

def readConstraints (value : Json) : Option Constraints := do
  let fields ← fields? value
  return {
    horizontal := ← defaulted (constraintNames.read .null) .min fields "horizontal"
    vertical := ← defaulted (constraintNames.read .null) .min fields "vertical" }

def writeConstraints (constraints : Constraints) : Json :=
  .object [("horizontal", constraintNames.write constraints.horizontal),
    ("vertical", constraintNames.write constraints.vertical)]

def positionings : Keywords Positioning := [("AUTO", .auto), ("ABSOLUTE", .absolute)]

def sizings : Keywords Sizing := [("FIXED", .fixed), ("HUG", .hug), ("FILL", .fill)]

/-- Any text but one leaves the alignment to the parent. -/
def readCrossAlign (value : Json) : Option CrossAlign :=
  (name? .null value).map fun name => if name = "STRETCH" then .stretch else .inherit

def writeCrossAlign : CrossAlign → Json
  | .stretch => .string "STRETCH"
  | .inherit => .string "INHERIT"

def readBounds (value : Json) : Option Bounds := do
  let fields ← fields? value
  return {
    x := ← required single fields "x"
    y := ← required single fields "y"
    width := ← required single fields "width"
    height := ← required single fields "height" }

def writeBounds (number : Single → Json) (bounds : Bounds) : Json :=
  .object [("x", number bounds.x), ("y", number bounds.y), ("width", number bounds.width),
    ("height", number bounds.height)]

/-! ### Frames -/

def layoutModes : Keywords LayoutMode :=
  [("NONE", .free), ("HORIZONTAL", .horizontal), ("VERTICAL", .vertical), ("GRID", .grid)]

def mainAligns : Keywords MainAlign :=
  [("MIN", .min), ("MAX", .max), ("CENTER", .center), ("SPACE_BETWEEN", .spaceBetween)]

def counterAligns : Keywords CounterAlign :=
  [("MIN", .min), ("MAX", .max), ("CENTER", .center), ("BASELINE", .baseline)]

def axisSizings : Keywords AxisSizing := [("FIXED", .fixed), ("AUTO", .auto)]

def wraps : Keywords Wrap := [("NO_WRAP", .noWrap), ("WRAP", .wrap)]

def lineAligns : Keywords LineAlign := [("AUTO", .auto), ("SPACE_BETWEEN", .spaceBetween)]

/-- The frame among the fields of a record. -/
def readFrame (under : Vacant) (fields : Fields) : Option Frame := do
  return {
    mode := ← defaulted (layoutModes.read under) .free fields "layoutMode"
    itemSpacing := ← defaulted single 0 fields "itemSpacing"
    paddingTop := ← defaulted single 0 fields "paddingTop"
    paddingRight := ← defaulted single 0 fields "paddingRight"
    paddingBottom := ← defaulted single 0 fields "paddingBottom"
    paddingLeft := ← defaulted single 0 fields "paddingLeft"
    mainAlign := ← defaulted (mainAligns.read under) .min fields "primaryAxisAlignItems"
    counterAlign := ← optional (counterAligns.read under) fields "counterAxisAlignItems"
    mainSizing := ← defaulted (axisSizings.read under) .fixed fields "primaryAxisSizingMode"
    counterSizing := ← defaulted (axisSizings.read under) .fixed fields "counterAxisSizingMode"
    wrap := ← defaulted (wraps.read under) .noWrap fields "layoutWrap"
    lineSpacing := ← optional single fields "counterAxisSpacing"
    lineAlign := ← defaulted (lineAligns.read under) .auto fields "counterAxisAlignContent"
    gridRows := ← defaulted word 0 fields "gridRowCount"
    gridColumns := ← defaulted word 0 fields "gridColumnCount"
    gridRowGap := ← optional single fields "gridRowGap"
    gridColumnGap := ← optional single fields "gridColumnGap"
    clipsContent := ← defaulted boolean false fields "clipsContent"
    reversedStacking := ← defaulted boolean false fields "itemReverseZIndex" }

/-- The fields of a frame. -/
def frameFields (number : Single → Json) (frame : Frame) : Fields :=
  [("layoutMode", layoutModes.write frame.mode),
    ("itemSpacing", number frame.itemSpacing),
    ("paddingTop", number frame.paddingTop),
    ("paddingRight", number frame.paddingRight),
    ("paddingBottom", number frame.paddingBottom),
    ("paddingLeft", number frame.paddingLeft),
    ("primaryAxisAlignItems", mainAligns.write frame.mainAlign),
    ("counterAxisAlignItems", Json.ofOption counterAligns.write frame.counterAlign),
    ("primaryAxisSizingMode", axisSizings.write frame.mainSizing),
    ("counterAxisSizingMode", axisSizings.write frame.counterSizing),
    ("layoutWrap", wraps.write frame.wrap),
    ("counterAxisSpacing", Json.ofOption number frame.lineSpacing),
    ("counterAxisAlignContent", lineAligns.write frame.lineAlign),
    ("gridRowCount", Json.nat frame.gridRows.toNat),
    ("gridColumnCount", Json.nat frame.gridColumns.toNat),
    ("gridRowGap", Json.ofOption number frame.gridRowGap),
    ("gridColumnGap", Json.ofOption number frame.gridColumnGap),
    ("clipsContent", .bool frame.clipsContent),
    ("itemReverseZIndex", .bool frame.reversedStacking)]

end SceneMarkup.Scene.Codec
