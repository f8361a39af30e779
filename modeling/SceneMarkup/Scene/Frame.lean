import SceneMarkup.Scene.Placement

/-!
# Frames

* `Frame`: what a frame lays its children out by.
-/

namespace SceneMarkup.Scene

/-- How a frame places its children: by their coordinates, in a row or column, or in a grid. -/
inductive LayoutMode where
  | free
  | horizontal
  | vertical
  | grid
  deriving DecidableEq, Repr

/-- Where the children lie along the flow. -/
inductive MainAlign where
  | min
  | max
  | center
  | spaceBetween
  deriving DecidableEq, Repr

/-- Where the children lie across the flow. -/
inductive CounterAlign where
  | min
  | max
  | center
  | baseline
  deriving DecidableEq, Repr

/-- Whether an axis of a frame has its own size or that of its content. -/
inductive AxisSizing where
  | fixed
  | auto
  deriving DecidableEq, Repr

/-- Whether the flow may break into lines. -/
inductive Wrap where
  | noWrap
  | wrap
  deriving DecidableEq, Repr

/-- How the lines of a flow are spread. -/
inductive LineAlign where
  | auto
  | spaceBetween
  deriving DecidableEq, Repr

/-- What a frame lays its children out by. -/
structure Frame where
  mode : LayoutMode := .free
  itemSpacing : Single := 0
  paddingTop : Single := 0
  paddingRight : Single := 0
  paddingBottom : Single := 0
  paddingLeft : Single := 0
  mainAlign : MainAlign := .min
  /-- Without one the children stretch across the flow. -/
  counterAlign : Option CounterAlign := none
  mainSizing : AxisSizing := .fixed
  counterSizing : AxisSizing := .fixed
  wrap : Wrap := .noWrap
  lineSpacing : Option Single := none
  lineAlign : LineAlign := .auto
  gridRows : UInt32 := 0
  gridColumns : UInt32 := 0
  gridRowGap : Option Single := none
  gridColumnGap : Option Single := none
  clipsContent : Bool := false
  /-- Earlier children lie above later ones. -/
  reversedStacking : Bool := false
  deriving DecidableEq

namespace Frame

/-- The children are in a flow or a grid. -/
def isAutoLayout (frame : Frame) : Bool := frame.mode != .free

/-- The direction of the flow. -/
def mainAxis (frame : Frame) : Option Axis :=
  match frame.mode with
  | .horizontal => some .horizontal
  | .vertical => some .vertical
  | .free | .grid => none

end Frame

end SceneMarkup.Scene
