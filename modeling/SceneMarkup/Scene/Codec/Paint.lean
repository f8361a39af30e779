import SceneMarkup.Scene.Codec.Field
import SceneMarkup.Scene.Effect
import SceneMarkup.Scene.Paint

/-!
# Records of paints and effects

* `readColor`, `readPaint`, `readEffect` and `writeColor`, `writePaint`, `writeEffect`.

What a paint draws and what an effect does are named by their type, next to the fields of that type.
A writing takes the form of its numbers as an argument. Colors, stops and offsets are objects; an
array of their bare values is not read.
-/

namespace SceneMarkup.Scene.Codec

/-! ### Colors -/

/-- A color; without an alpha it is opaque. -/
def readColor (value : Json) : Option Color := do
  let fields ← fields? value
  return {
    red := ← required single fields "r"
    green := ← required single fields "g"
    blue := ← required single fields "b"
    alpha := ← defaulted single 1 fields "a" }

def writeColor (number : Single → Json) (color : Color) : Json :=
  .object [("r", number color.red), ("g", number color.green), ("b", number color.blue),
    ("a", number color.alpha)]

/-! ### Gradients -/

def readStop (value : Json) : Option GradientStop := do
  let fields ← fields? value
  return {
    position := ← required single fields "position"
    color := ← required readColor fields "color" }

def writeStop (number : Single → Json) (stop : GradientStop) : Json :=
  .object [("position", number stop.position), ("color", writeColor number stop.color)]

/-- A map of the plane: two rows of three numbers. -/
def readTransform : Json → Option Transform
  | .array [.array [a, b, tx], .array [c, d, ty]] => do
    return {
      a := ← single a
      b := ← single b
      tx := ← single tx
      c := ← single c
      d := ← single d
      ty := ← single ty }
  | _ => none

def writeTransform (number : Single → Json) (t : Transform) : Json :=
  .array [.array [number t.a, number t.b, number t.tx],
    .array [number t.c, number t.d, number t.ty]]

/-- The stops and the map of a gradient among the fields of a paint. -/
def readGradient (fields : Fields) : Option Gradient := do
  return {
    stops := ← defaulted (items readStop) [] fields "gradientStops"
    transform := ← defaulted readTransform {} fields "gradientTransform" }

def gradientFields (number : Single → Json) (gradient : Gradient) : Fields :=
  [("gradientStops", writeItems (writeStop number) gradient.stops),
    ("gradientTransform", writeTransform number gradient.transform)]

/-! ### Paints -/

/-- The types of gradients. -/
def gradientTypes : Keywords GradientShape :=
  [("GRADIENT_LINEAR", .linear), ("GRADIENT_RADIAL", .radial), ("GRADIENT_ANGULAR", .angular),
    ("GRADIENT_DIAMOND", .diamond)]

/-- What the fields of a paint of some type draw. -/
def readSource (fields : Fields) (type : String) : Option PaintSource :=
  if type = "SOLID" then do return .solid (← required readColor fields "color")
  else if type = "IMAGE" then some .image
  else do
    let shape ← gradientTypes.lookup type
    return .gradient shape (← readGradient fields)

def sourceFields (number : Single → Json) : PaintSource → Fields
  | .solid color => [("type", .string "SOLID"), ("color", writeColor number color)]
  | .image => [("type", .string "IMAGE")]
  | .gradient shape gradient =>
    ("type", gradientTypes.write shape) :: gradientFields number gradient

def readPaint (value : Json) : Option Paint := do
  let fields ← fields? value
  return {
    source := ← readSource fields (← required text fields "type")
    visible := ← defaulted boolean true fields "visible"
    opacity := ← defaulted single 1 fields "opacity" }

def writePaint (number : Single → Json) (paint : Paint) : Json :=
  .object (sourceFields number paint.source ++
    [("visible", .bool paint.visible), ("opacity", number paint.opacity)])

def strokeAligns : Keywords StrokeAlign :=
  [("INSIDE", .inside), ("OUTSIDE", .outside), ("CENTER", .center)]

/-! ### Effects -/

/-- A point of the plane. -/
def readOffset (value : Json) : Option (Single × Single) := do
  let fields ← fields? value
  return (← required single fields "x", ← required single fields "y")

/-- The shadow among the fields of an effect. -/
def readShadow (fields : Fields) : Option Shadow := do
  let offset ← defaulted readOffset (0, 0) fields "offset"
  return {
    color := ← required readColor fields "color"
    offsetX := offset.1
    offsetY := offset.2
    radius := ← defaulted single 0 fields "radius"
    spread := ← defaulted single 0 fields "spread" }

def shadowFields (number : Single → Json) (shadow : Shadow) : Fields :=
  [("color", writeColor number shadow.color),
    ("offset", .object [("x", number shadow.offsetX), ("y", number shadow.offsetY)]),
    ("radius", number shadow.radius), ("spread", number shadow.spread)]

/-- What the fields of an effect of some type do. -/
def readEffectKind (fields : Fields) (type : String) : Option EffectKind :=
  if type = "DROP_SHADOW" then do return .dropShadow (← readShadow fields)
  else if type = "INNER_SHADOW" then do return .innerShadow (← readShadow fields)
  else if type = "LAYER_BLUR" then do return .layerBlur (← required single fields "radius")
  else if type = "BACKGROUND_BLUR" then do
    return .backgroundBlur (← required single fields "radius")
  else none

def effectKindFields (number : Single → Json) : EffectKind → Fields
  | .dropShadow shadow => ("type", .string "DROP_SHADOW") :: shadowFields number shadow
  | .innerShadow shadow => ("type", .string "INNER_SHADOW") :: shadowFields number shadow
  | .layerBlur radius => [("type", .string "LAYER_BLUR"), ("radius", number radius)]
  | .backgroundBlur radius => [("type", .string "BACKGROUND_BLUR"), ("radius", number radius)]

def readEffect (value : Json) : Option Effect := do
  let fields ← fields? value
  return {
    kind := ← readEffectKind fields (← required text fields "type")
    visible := ← defaulted boolean true fields "visible" }

def writeEffect (number : Single → Json) (effect : Effect) : Json :=
  .object (effectKindFields number effect.kind ++ [("visible", .bool effect.visible)])

/-! ### Blending and masks -/

def blendModes : Keywords BlendMode :=
  [("PASS_THROUGH", .passThrough), ("NORMAL", .normal), ("DARKEN", .darken),
    ("MULTIPLY", .multiply), ("LINEAR_BURN", .linearBurn), ("COLOR_BURN", .colorBurn),
    ("LIGHTEN", .lighten), ("SCREEN", .screen), ("LINEAR_DODGE", .linearDodge),
    ("COLOR_DODGE", .colorDodge), ("OVERLAY", .overlay), ("SOFT_LIGHT", .softLight),
    ("HARD_LIGHT", .hardLight), ("DIFFERENCE", .difference), ("EXCLUSION", .exclusion),
    ("HUE", .hue), ("SATURATION", .saturation), ("COLOR", .color), ("LUMINOSITY", .luminosity)]

def maskTypes : Keywords MaskType :=
  [("ALPHA", .alpha), ("VECTOR", .vector), ("LUMINANCE", .luminance)]

end SceneMarkup.Scene.Codec
