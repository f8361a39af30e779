import SceneMarkup.Appearance.Color
import SceneMarkup.Appearance.GradientGeometry
import SceneMarkup.Css.Quantity

/-!
# Gradient values

A gradient value is a function with a course and its stops.

* `course`: the function and the course of a gradient, with a circle where the radii are close;
* `courseOfEllipse`: the same with an ellipse in any case;
* `gradientWith`: the value of a course and of stops in given colors;
* `gradientValue`: the value of a gradient under an opacity.
-/

namespace SceneMarkup.Appearance

open Scene (Gradient GradientShape GradientStop Transform)
open Css (percent)

/-- A point, in percent. -/
def atPoint (point : Single × Single) : String := percent point.1 ++ " " ++ percent point.2

/-- The stops of a gradient, in given colors. -/
def stopList (stops : List GradientStop) (color : GradientStop → String) : String :=
  ", ".intercalate (stops.map fun stop => color stop ++ " " ++ percent (stop.position * 100))

def linearCourse (t : Transform) : String :=
  "linear-gradient(" ++ (linearAngle t).compact ++ "deg"

def conicCourse (t : Transform) : String :=
  "conic-gradient(from " ++ (conicAngle t).compact ++ "deg at " ++ atPoint (center t)

def ellipseCourse (t : Transform) : String :=
  "radial-gradient(ellipse " ++ atPoint (radii t) ++ " at " ++ atPoint (center t)

def circleCourse (t : Transform) : String :=
  "radial-gradient(circle closest-side at " ++ atPoint (center t)

/-- The radii are within five percent of each other. -/
def isCircle (t : Transform) : Bool := decide (((radii t).1 - (radii t).2).abs < 5)

/-- The function and the course of a gradient. -/
def course (shape : GradientShape) (t : Transform) : String :=
  match shape with
  | .linear => linearCourse t
  | .angular => conicCourse t
  | .radial | .diamond => if isCircle t then circleCourse t else ellipseCourse t

/-- The function and the course of a gradient whose circles are given as ellipses. -/
def courseOfEllipse (shape : GradientShape) (t : Transform) : String :=
  match shape with
  | .linear => linearCourse t
  | .angular => conicCourse t
  | .radial | .diamond => ellipseCourse t

/-- The value of a course and of stops in given colors. -/
def gradientWith (course : String) (stops : List GradientStop) (color : GradientStop → String) :
    String :=
  course ++ ", " ++ stopList stops color ++ ")"

/-- The value of a gradient under an opacity. -/
def gradientValue (options : Options) (shape : GradientShape) (gradient : Gradient)
    (opacity : Single) : String :=
  gradientWith (course shape gradient.transform) gradient.stops fun stop =>
    colorValue options stop.color opacity

end SceneMarkup.Appearance
