import SceneMarkup.Markup.Tree
import SceneMarkup.Stylesheet.Registry
import SceneMarkup.Typography.Font

/-!
# Sketches

A sketch is markup whose classes have no names yet: an element asks for them. Naming a sketch walks
it once with what stylesheets are made of, and stops at the first fault.

* `Styling`: the requests of an element, in groups. They are made in one order and shown in another;
* `Sketch`: elements, the boxes of masks, texts, line breaks, and faults;
* `Sheet`: the registry of classes and the fonts in use;
* `Sketch.name`: the markup of a sketch, or its first fault, and the sheet after it.
-/

namespace SceneMarkup

open Css (Declaration)
open Typography (FontSet)

/-- The requests of an element. They are made as they stand here: for its size, for what it declares
by itself, for how it lays out its children, and for the rest. -/
structure Styling where
  sizing : List Request := []
  own : Option Request := none
  layout : List Request := []
  extra : List Request := []
  deriving DecidableEq, Repr

/-- An element before its classes have names. -/
structure SketchHead where
  tag : String
  styling : Styling := {}
  style : List Declaration := []
  picture : Option String := none
  /-- The family and the weight of the font that the element needs. -/
  font : Option (String × Nat) := none
  deriving DecidableEq, Repr

/-- Markup whose classes have no names yet. -/
inductive Sketch where
  | element (head : SketchHead) (children : List Sketch)
  /-- The box of a mask, whose clip is requested after everything in it. -/
  | masked (clip : Option Request) (style : List Declaration) (children : List Sketch)
  | text (content : String)
  | lineBreak
  /-- A node that cannot be placed. -/
  | fault (id : String)

/-- What stylesheets are made of: classes and fonts. -/
structure Sheet where
  registry : Registry := {}
  fonts : FontSet := {}

namespace Sheet

instance : Inhabited Sheet := ⟨{}⟩

/-- The classes of requests. -/
def internAll (sheet : Sheet) (requests : List Request) : List String × Sheet :=
  let (classes, registry) := sheet.registry.internAll requests
  (classes, { sheet with registry })

/-- The classes of an element: its own first, then for its children, for its size, and the rest. -/
def style (sheet : Sheet) (styling : Styling) : List String × Sheet :=
  let (sizing, sheet) := sheet.internAll styling.sizing
  let (own, sheet) := sheet.internAll styling.own.toList
  let (layout, sheet) := sheet.internAll styling.layout
  let (extra, sheet) := sheet.internAll styling.extra
  (own ++ layout ++ sizing ++ extra, sheet)

/-- The font of an element, if it needs one. -/
def addFont (sheet : Sheet) : Option (String × Nat) → Sheet
  | some (family, weight) => { sheet with fonts := sheet.fonts.insert family weight }
  | none => sheet

end Sheet

namespace Sketch

mutual

/-- The markup of a sketch, or its first fault, and the sheet after what was named. -/
def name (sheet : Sheet) : Sketch → Except String Markup × Sheet
  | fault id => (.error id, sheet)
  | text content => (.ok (.text content), sheet)
  | lineBreak => (.ok .lineBreak, sheet)
  | element head children =>
    let (classes, sheet) := (sheet.addFont head.font).style head.styling
    match nameAll sheet children with
    | (.ok children, sheet) =>
      (.ok (.element ⟨head.tag, classes, head.style, head.picture⟩ children), sheet)
    | (.error id, sheet) => (.error id, sheet)
  | masked clip style children =>
    match nameAll sheet children with
    | (.ok children, sheet) =>
      let (classes, sheet) := sheet.internAll clip.toList
      (.ok (.element ⟨"div", classes, style, none⟩ children), sheet)
    | (.error id, sheet) => (.error id, sheet)

/-- The markup of sketches one after the other, or their first fault. -/
def nameAll (sheet : Sheet) : List Sketch → Except String (List Markup) × Sheet
  | [] => (.ok [], sheet)
  | sketch :: rest =>
    match name sheet sketch with
    | (.error id, sheet) => (.error id, sheet)
    | (.ok markup, sheet) =>
      match nameAll sheet rest with
      | (.ok others, sheet) => (.ok (markup :: others), sheet)
      | (.error id, sheet) => (.error id, sheet)

end

end Sketch

end SceneMarkup
