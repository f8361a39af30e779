import SceneMarkup.Scene.Codec.Paint
import SceneMarkup.Scene.TextStyle

/-!
# Records of texts

* `readTextStyle`, `textStyleFields`: a text among the fields of its node. The name of a font is an
  object; an array of the bare names is not read.
-/

namespace SceneMarkup.Scene.Codec

def readFont (value : Json) : Option FontName := do
  let fields ← fields? value
  return { family := ← required text fields "family", style := ← required text fields "style" }

def writeFont (font : FontName) : Json :=
  .object [("family", .string font.family), ("style", .string font.style)]

def readLineHeight (value : Json) : Option LineHeight := do
  let fields ← fields? value
  let unit ← required text fields "unit"
  if unit = "AUTO" then some .auto
  else if unit = "PERCENT" then return .percent (← required single fields "value")
  else if unit = "PIXELS" then return .pixels (← required single fields "value")
  else none

def writeLineHeight (number : Single → Json) : LineHeight → Json
  | .auto => .object [("unit", .string "AUTO")]
  | .percent value => .object [("unit", .string "PERCENT"), ("value", number value)]
  | .pixels value => .object [("unit", .string "PIXELS"), ("value", number value)]

def readLetterSpacing (value : Json) : Option LetterSpacing := do
  let fields ← fields? value
  let unit ← required text fields "unit"
  if unit = "PERCENT" then return .percent (← required single fields "value")
  else if unit = "PIXELS" then return .pixels (← required single fields "value")
  else none

def writeLetterSpacing (number : Single → Json) : LetterSpacing → Json
  | .percent value => .object [("unit", .string "PERCENT"), ("value", number value)]
  | .pixels value => .object [("unit", .string "PIXELS"), ("value", number value)]

def textAligns : Keywords TextAlign :=
  [("LEFT", .left), ("CENTER", .center), ("RIGHT", .right), ("JUSTIFIED", .justified)]

def textCases : Keywords TextCase :=
  [("ORIGINAL", .unchanged), ("UPPER", .upper), ("LOWER", .lower), ("TITLE", .title),
    ("SMALL_CAPS", .smallCaps)]

def textDecorations : Keywords TextDecoration :=
  [("NONE", .none), ("UNDERLINE", .underline), ("STRIKETHROUGH", .strikethrough)]

def autoResizes : Keywords AutoResize :=
  [("NONE", .none), ("WIDTH_AND_HEIGHT", .widthAndHeight), ("HEIGHT", .height),
    ("TRUNCATE", .truncate)]

def readSegment (value : Json) : Option Segment := do
  let fields ← fields? value
  return {
    characters := ← required text fields "characters"
    fills := ← defaulted (items readPaint) [] fields "fills" }

def writeSegment (number : Single → Json) (segment : Segment) : Json :=
  .object [("characters", .string segment.characters),
    ("fills", writeItems (writePaint number) segment.fills)]

/-- The text among the fields of a node. -/
def readTextStyle (fields : Fields) : Option TextStyle := do
  return {
    characters := ← defaulted text "" fields "characters"
    font := ← defaulted readFont {} fields "fontName"
    fontSize := ← defaulted single 12 fields "fontSize"
    lineHeight := ← defaulted readLineHeight .auto fields "lineHeight"
    letterSpacing := ← defaulted readLetterSpacing (.pixels 0) fields "letterSpacing"
    align := ← defaulted (textAligns.read .nullOrEmpty) .left fields "textAlignHorizontal"
    case := ← defaulted (textCases.read .nullOrEmpty) .unchanged fields "textCase"
    decoration := ← defaulted (textDecorations.read .nullOrEmpty) .none fields "textDecoration"
    paragraphSpacing := ← defaulted single 0 fields "paragraphSpacing"
    autoResize := ← defaulted (autoResizes.read .nullOrEmpty) .none fields "textAutoResize"
    segments := ← defaulted (items readSegment) [] fields "segments" }

/-- The fields of a text. -/
def textStyleFields (number : Single → Json) (style : TextStyle) : Fields :=
  [("characters", .string style.characters),
    ("fontName", writeFont style.font),
    ("fontSize", number style.fontSize),
    ("lineHeight", writeLineHeight number style.lineHeight),
    ("letterSpacing", writeLetterSpacing number style.letterSpacing),
    ("textAlignHorizontal", textAligns.write style.align),
    ("textCase", textCases.write style.case),
    ("textDecoration", textDecorations.write style.decoration),
    ("paragraphSpacing", number style.paragraphSpacing),
    ("textAutoResize", autoResizes.write style.autoResize),
    ("segments", writeItems (writeSegment number) style.segments)]

end SceneMarkup.Scene.Codec
