import SceneMarkup.Appearance.Fill

/-!
# Boxes

* `strokeStyle?`: how the stroke of a box is shown;
* `boxShadows`, `textShadows`, `blurs`: its effects;
* `blendKeyword?`, `layerDeclarations`: its blending and opacity;
* `boxDeclarations`: all that a box paints.
-/

namespace SceneMarkup.Appearance

open Scene (BlendMode CornerRadius Effect Layer Paint Shadow)
open Css (Declaration px)

/-- The value of rounded corners. -/
def radiusValue? : CornerRadius → Option String
  | .square => none
  | .uniform radius => some (px radius)
  | .each topLeft topRight bottomRight bottomLeft =>
    some (" ".intercalate ([topLeft, topRight, bottomRight, bottomLeft].map px))

/-! ### Strokes -/

/-- How a stroke is shown: inside the box as a shadow, around it as an outline, or on its edge. -/
inductive StrokeStyle where
  | inset (shadow : String)
  | outline (declarations : List Declaration)
  | border (declaration : Declaration)
  deriving DecidableEq, Repr

/-- How the first visible stroke of one color is shown, if it has a width. -/
def strokeStyle? (options : Options) (layer : Layer) : Option StrokeStyle :=
  if layer.strokeWeight ≤ 0 then none
  else do
    let paint ← layer.strokes.find? fun paint => paint.visible && paint.isSolid
    match paint.source with
    | .solid color =>
      let width := px layer.strokeWeight
      let value := colorValue options color paint.opacity
      return match layer.strokeAlign with
        | .inside => .inset ("inset 0 0 0 " ++ width ++ " " ++ value)
        | .outside =>
          .outline [⟨"outline", width ++ " solid " ++ value⟩, ⟨"outline-offset", "0"⟩]
        | .center => .border ⟨"border", width ++ " solid " ++ value⟩
    | .gradient .. | .image => none

/-- The declarations of a stroke, and the shadow that it adds. -/
def StrokeStyle.parts : StrokeStyle → List Declaration × List String
  | inset shadow => ([], [shadow])
  | outline declarations => (declarations, [])
  | border declaration => ([declaration], [])

/-! ### Effects -/

/-- A shadow of a box. -/
def boxShadow (options : Options) (inner : Bool) (shadow : Shadow) : String :=
  (if inner then "inset " else "") ++
    " ".intercalate ([shadow.offsetX, shadow.offsetY, shadow.radius,
      shadow.spread].map px) ++ " " ++
    colorValue options shadow.color 1

/-- The shadow of an effect on a box. -/
def boxShadow? (options : Options) (effect : Effect) : Option String :=
  match effect.kind with
  | .dropShadow shadow => some (boxShadow options false shadow)
  | .innerShadow shadow => some (boxShadow options true shadow)
  | .layerBlur _ | .backgroundBlur _ => none

/-- The shadow of an effect on letters, which have none inside. -/
def textShadow? (options : Options) (effect : Effect) : Option String :=
  match effect.kind with
  | .dropShadow shadow =>
    some (" ".intercalate ([shadow.offsetX, shadow.offsetY, shadow.radius].map px) ++ " " ++
      colorValue options shadow.color 1)
  | .innerShadow _ | .layerBlur _ | .backgroundBlur _ => none

/-- The effects that show. -/
def visibleEffects (layer : Layer) : List Effect := layer.effects.filter Effect.visible

/-- The shadows of a box. -/
def boxShadows (options : Options) (layer : Layer) : List String :=
  (visibleEffects layer).filterMap (boxShadow? options)

/-- The shadows of a text. -/
def textShadows (options : Options) (layer : Layer) : List String :=
  (visibleEffects layer).filterMap (textShadow? options)

/-- The declaration of a list of shadows, if there are any. -/
def shadowDeclaration (property : String) (shadows : List String) : List Declaration :=
  if shadows.isEmpty then [] else [⟨property, ", ".intercalate shadows⟩]

/-- The radius of a blur of the layer itself. -/
def layerBlur? (effect : Effect) : Option Single :=
  match effect.kind with
  | .layerBlur radius => some radius
  | _ => none

/-- The radius of a blur of what lies behind. -/
def backgroundBlur? (effect : Effect) : Option Single :=
  match effect.kind with
  | .backgroundBlur radius => some radius
  | _ => none

/-- The declaration of the last of some radii. A design gives diameters, so they are halved. -/
def blurDeclaration (property : String) (radii : List Single) : List Declaration :=
  match radii.getLast? with
  | some radius => [⟨property, "blur(" ++ px (radius / 2) ++ ")"⟩]
  | none => []

/-- The last blur of each kind. -/
def blurs (layer : Layer) : List Declaration :=
  blurDeclaration "filter" ((visibleEffects layer).filterMap layerBlur?) ++
    blurDeclaration "backdrop-filter" ((visibleEffects layer).filterMap backgroundBlur?)

/-! ### Blending -/

/-- The keyword of a blend mode, unless it is the default or has none. -/
def blendKeyword? : BlendMode → Option String
  | .passThrough | .normal => none
  | .linearBurn | .linearDodge => none
  | .darken => some "darken"
  | .multiply => some "multiply"
  | .colorBurn => some "color-burn"
  | .lighten => some "lighten"
  | .screen => some "screen"
  | .colorDodge => some "color-dodge"
  | .overlay => some "overlay"
  | .softLight => some "soft-light"
  | .hardLight => some "hard-light"
  | .difference => some "difference"
  | .exclusion => some "exclusion"
  | .hue => some "hue"
  | .saturation => some "saturation"
  | .color => some "color"
  | .luminosity => some "luminosity"

/-- The opacity and the blending of a layer. -/
def layerDeclarations (options : Options) (layer : Layer) : List Declaration :=
  (if options.isOpaque layer.opacity then [] else [⟨"opacity", layer.opacity.compact⟩]) ++
    ((blendKeyword? layer.blendMode).map fun mode => ⟨"mix-blend-mode", mode⟩).toList

/-! ### Everything -/

/-- All that a box paints. -/
def boxDeclarations (options : Options) (layer : Layer) : List Declaration :=
  let stroke := ((strokeStyle? options layer).map StrokeStyle.parts).getD ([], [])
  ((fillValue? options layer.fills).map fun value => ⟨"background", value⟩).toList ++
    stroke.1 ++
    ((radiusValue? layer.corners).map fun value => ⟨"border-radius", value⟩).toList ++
    shadowDeclaration "box-shadow" (stroke.2 ++ boxShadows options layer) ++
    blurs layer ++
    layerDeclarations options layer

end SceneMarkup.Appearance
