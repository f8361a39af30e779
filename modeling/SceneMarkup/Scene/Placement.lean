import SceneMarkup.Numeric.Arithmetic

/-!
# How a node sits in its parent

* `Constraint`: the edge that a node keeps its distance to, on one axis;
* `Sizing`: how an axis of a node gets its size;
* `Bounds`: an upright box;
* `CornerRadius`: the rounding of the corners of a box.
-/

namespace SceneMarkup.Scene

/-- One of the two directions. -/
inductive Axis where
  | horizontal
  | vertical
  deriving DecidableEq, Repr

/-- What a node keeps its distance to, on one axis. -/
inductive Constraint where
  | min
  | max
  | center
  | stretch
  deriving DecidableEq, Repr

/-- The constraints of both axes. -/
structure Constraints where
  horizontal : Constraint := .min
  vertical : Constraint := .min
  deriving DecidableEq, Repr

/-- The constraint of an axis. -/
def Constraints.on (constraints : Constraints) : Axis → Constraint
  | .horizontal => constraints.horizontal
  | .vertical => constraints.vertical

/-- In the flow of the parent, or out of it. -/
inductive Positioning where
  | auto
  | absolute
  deriving DecidableEq, Repr

/-- How an axis gets its size: by a number, from its content, or from the room in the parent. -/
inductive Sizing where
  | fixed
  | hug
  | fill
  deriving DecidableEq, Repr

/-- Whether a node stretches across the flow of its parent. -/
inductive CrossAlign where
  | stretch
  | inherit
  deriving DecidableEq, Repr

/-- An upright box. -/
structure Bounds where
  x : Single
  y : Single
  width : Single
  height : Single
  deriving DecidableEq

namespace Bounds

/-- The middle of a box. -/
def center (bounds : Bounds) : Single × Single :=
  (bounds.x + bounds.width / 2, bounds.y + bounds.height / 2)

/-- All four numbers are finite. -/
def isFinite (bounds : Bounds) : Bool :=
  bounds.x.isFinite && bounds.y.isFinite && bounds.width.isFinite && bounds.height.isFinite

end Bounds

/-- The rounding of a box: none, the same everywhere, or clockwise from the top left. -/
inductive CornerRadius where
  | square
  | uniform (radius : Single)
  | each (topLeft topRight bottomRight bottomLeft : Single)
  deriving DecidableEq

end SceneMarkup.Scene
