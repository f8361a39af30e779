import SceneMarkup.Appearance.Box
import SceneMarkup.Emission.Cluster
import SceneMarkup.Naming.ClassName
import SceneMarkup.Picture.Asset
import SceneMarkup.Typography.Content
import SceneMarkup.Typography.Declarations

/-!
# Leaves

* `ownRequest?`: the request for what a node declares by itself, under its name;
* `positionStyle`: what places a node in its slot;
* `textSketch`, `boxSketch`, `pictureSketch`: the sketch of a text, of a rectangle, and of a
  picture;
* `clipPath?`, `clipRequest?`: the shape of a mask.
-/

namespace SceneMarkup.Emission

open Scene (Layer Kind TextStyle)
open Css (Declaration declares lastOfEach)
open Picture (Asset)
open Position (stackingOrder)

/-- The request for what a node declares by itself, if it declares anything. -/
def ownRequest? (layer : Layer) (declarations : List Declaration) : Option Request :=
  let kept := lastOfEach declarations
  if kept.isEmpty then none else some (.own (Naming.baseName layer.name layer.id) kept)

/-- What places a node in its slot. -/
def positionStyle (options : Options) (layer : Layer) : Slot → List Declaration
  | .root => []
  | .child container _ index count =>
    Position.place options layer container (stackingOrder container.kind index count)

/-- A style whose element is a box for what is placed in it. -/
def anchoring (style : List Declaration) : List Declaration :=
  if declares style "position" then style else ⟨"position", "relative"⟩ :: style

/-- The sketch of a text. -/
def textSketch (options : Options) (layer : Layer) (text : TextStyle) (slot : Slot) : Sketch :=
  let sized := Layout.sizeIn slot.placement layer
  let declarations :=
    sized.declarations ++ Typography.textDeclarations options layer text ++
      Appearance.shadowDeclaration "text-shadow" (Appearance.textShadows options layer) ++
      Appearance.blurs layer ++ Appearance.layerDeclarations options layer
  .element
    { tag := "p"
      styling :=
        { sizing := sized.requests
          own := ownRequest? layer declarations
          extra := [Layout.fontSizeRequest text.fontSize] }
      style := lastOfEach (positionStyle options layer slot)
      font :=
        if Typography.FontSet.requests options text.font.family then
          some (text.font.family, Typography.weight text.font.style)
        else none }
    (Typography.textContent options text)

/-- The sketch of a rectangle. -/
def boxSketch (options : Options) (layer : Layer) (slot : Slot) : Sketch :=
  let sized := Layout.sizeIn slot.placement layer
  .element
    { tag := "div"
      styling :=
        { sizing := sized.requests
          own :=
            ownRequest? layer (sized.declarations ++ Appearance.boxDeclarations options layer) }
      style := lastOfEach (positionStyle options layer slot) }
    []

/-! ### Pictures -/

/-- The text of a picture, if there is one. -/
def pictureText? : Asset → Option String
  | .svg text => some text
  | .placeholder => none

/-- What a picture paints: a placeholder keeps the outline of the shape. -/
def picturePaint (options : Options) (layer : Layer) (asset : Asset) : List Declaration :=
  (match asset with
    | .svg _ => []
    | .placeholder =>
      ⟨"background", options.placeholderColor⟩ ::
        if layer.kind = .ellipse then [⟨"border-radius", "50%"⟩] else []) ++
    Appearance.layerDeclarations options layer

/-- The sketch of a picture that is not rotated. -/
def uprightPicture (options : Options) (layer : Layer) (asset : Asset) (slot : Slot) : Sketch :=
  let sized := Layout.sizeIn slot.placement layer
  .element
    { tag := "div"
      styling :=
        { sizing := sized.requests
          own := ownRequest? layer (sized.declarations ++ picturePaint options layer asset) }
      style := lastOfEach (positionStyle options layer slot)
      picture := pictureText? asset }
    []

/-- What places the outer box of a rotated picture. -/
def rotatedSlotStyle (options : Options) (layer : Layer) : Slot → List Declaration
  | .root => []
  | .child container _ index count =>
    Position.rotatedSlot options layer container (stackingOrder container.kind index count)

/-- The sketch of a rotated picture: a box that keeps its size, with a rotated box in its middle. -/
def rotatedPicture (options : Options) (layer : Layer) (asset : Asset) (slot : Slot) : Sketch :=
  let inner : Sketch :=
    .element
      { tag := "div"
        styling := { own := ownRequest? layer (picturePaint options layer asset) }
        style := Position.rotatedInner layer
        picture := pictureText? asset }
      []
  .element
    { tag := "div"
      style :=
        lastOfEach
          (anchoring (rotatedSlotStyle options layer slot) ++ Position.rotatedOuter layer) }
    [inner]

/-- The sketch of a picture. -/
def pictureSketch (options : Options) (layer : Layer) (asset : Asset) (slot : Slot) : Sketch :=
  if layer.isRotated options.rotationTolerance then rotatedPicture options layer asset slot
  else uprightPicture options layer asset slot

/-! ### Masks -/

/-- The shape that a mask cuts, unless it is only its box. -/
def clipPath? (mask : Layer) : Option String :=
  match mask.kind with
  | .rectangle | .frame _ | .group =>
    match Appearance.radiusValue? mask.corners with
    | some radius => some ("inset(0 round " ++ radius ++ ")")
    | none => some "inset(0)"
  | .ellipse => some "ellipse(50% 50% at 50% 50%)"
  | .text _ | .vector => none

/-- The declarations that cut and fade what a mask covers. -/
def clipDeclarations (options : Options) (mask : Layer) : List Declaration :=
  ((clipPath? mask).map fun path => ⟨"clip-path", path⟩).toList ++
    match Appearance.maskImage? options mask with
    | some image => [⟨"-webkit-mask-image", image⟩, ⟨"mask-image", image⟩]
    | none => []

/-- The request for the shape of a mask, if it has one. -/
def clipRequest? (options : Options) (mask : Layer) : Option Request :=
  let declarations := clipDeclarations options mask
  if declarations.isEmpty then none
  else some (.own (Naming.baseName mask.name mask.id ++ "-mask") declarations)

end SceneMarkup.Emission
