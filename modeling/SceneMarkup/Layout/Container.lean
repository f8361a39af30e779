import SceneMarkup.Layout.Utility
import SceneMarkup.Scene.Frame

/-!
# The layout of containers

* `containerRequests`: the utilities by which a frame lays out its children. A frame that places
  them by their coordinates has none.
-/

namespace SceneMarkup.Layout

open Scene (CounterAlign Frame MainAlign)

/-- One utility if the four paddings agree, else one for each side that needs it. -/
def paddingRequests (frame : Frame) : List Request :=
  if [frame.paddingTop, frame.paddingRight, frame.paddingBottom, frame.paddingLeft].all
      (·.equals frame.paddingTop) then
    lengthUtility? "p" "padding" frame.paddingTop
  else
    lengthUtility? "pt" "padding-top" frame.paddingTop ++
      lengthUtility? "pr" "padding-right" frame.paddingRight ++
      lengthUtility? "pb" "padding-bottom" frame.paddingBottom ++
      lengthUtility? "pl" "padding-left" frame.paddingLeft

/-! ### Flows -/

/-- Where the children lie along the flow. -/
def mainAlignRequest : MainAlign → Request
  | .min => fixed "justify-start" [⟨"justify-content", "flex-start"⟩]
  | .max => fixed "justify-end" [⟨"justify-content", "flex-end"⟩]
  | .center => fixed "justify-center" [⟨"justify-content", "center"⟩]
  | .spaceBetween => fixed "justify-between" [⟨"justify-content", "space-between"⟩]

/-- Where the children lie across the flow. -/
def counterAlignRequest : Option CounterAlign → Request
  | some .min => fixed "items-start" [⟨"align-items", "flex-start"⟩]
  | some .max => fixed "items-end" [⟨"align-items", "flex-end"⟩]
  | some .center => fixed "items-center" [⟨"align-items", "center"⟩]
  | some .baseline => fixed "items-baseline" [⟨"align-items", "baseline"⟩]
  | none => fixed "items-stretch" [⟨"align-items", "stretch"⟩]

/-- The room between the columns. -/
def columnGap (length : Single) : List Request := lengthUtility? "gap-x" "column-gap" length

/-- The room between the rows. -/
def rowGap (length : Single) : List Request := lengthUtility? "gap-y" "row-gap" length

/-- The lines of a flow: whether it breaks, how they are spread, and the room between them. Lines of
a row lie below each other, lines of a column side by side. -/
def wrapRequests (horizontal : Bool) (frame : Frame) : List Request :=
  match frame.wrap with
  | .noWrap => []
  | .wrap =>
    [fixed "flex-wrap" [⟨"flex-wrap", "wrap"⟩]] ++
      (match frame.lineAlign with
        | .spaceBetween => [fixed "content-between" [⟨"align-content", "space-between"⟩]]
        | .auto => []) ++
      (match frame.lineSpacing with
        | some spacing => if horizontal then rowGap spacing else columnGap spacing
        | none => [])

/-- The room between the children of a flow, unless it is what is left over. -/
def spacingRequests (horizontal : Bool) (frame : Frame) : List Request :=
  match frame.mainAlign, frame.wrap with
  | .spaceBetween, _ => []
  | _, .noWrap => lengthUtility? "gap" "gap" frame.itemSpacing
  | _, .wrap => if horizontal then columnGap frame.itemSpacing else rowGap frame.itemSpacing

/-- The utilities of a row or a column. -/
def flowRequests (horizontal : Bool) (frame : Frame) : List Request :=
  [fixed "flex" [⟨"display", "flex"⟩],
    if horizontal then fixed "flex-row" [⟨"flex-direction", "row"⟩]
    else fixed "flex-col" [⟨"flex-direction", "column"⟩]] ++
    wrapRequests horizontal frame ++ spacingRequests horizontal frame ++ paddingRequests frame ++
    [mainAlignRequest frame.mainAlign, counterAlignRequest frame.counterAlign]

/-! ### Grids -/

/-- The tracks of a grid along one side, if their number is given. -/
def trackRequests (name property : String) (count : UInt32) : List Request :=
  if count = 0 then []
  else
    [fixed (name ++ "-" ++ toString count.toNat)
      [⟨property, "repeat(" ++ toString count.toNat ++ ", minmax(0, 1fr))"⟩]]

/-- The gap between the rows of a grid. -/
def gridRowGap (frame : Frame) : Single := frame.gridRowGap.getD frame.itemSpacing

/-- The gap between the columns of a grid. -/
def gridColumnGap (frame : Frame) : Single := frame.gridColumnGap.getD frame.itemSpacing

/-- One utility if both gaps round alike, else one for each that needs it. -/
def gridGapRequests (frame : Frame) : List Request :=
  if (gridRowGap frame).roundHalfAway.equals (gridColumnGap frame).roundHalfAway then
    lengthUtility? "gap" "gap" (gridRowGap frame)
  else rowGap (gridRowGap frame) ++ columnGap (gridColumnGap frame)

/-- The utilities of a grid. -/
def gridRequests (frame : Frame) : List Request :=
  [fixed "grid" [⟨"display", "grid"⟩]] ++
    trackRequests "grid-rows" "grid-template-rows" frame.gridRows ++
    trackRequests "grid-cols" "grid-template-columns" frame.gridColumns ++
    gridGapRequests frame ++ paddingRequests frame

/-! ### Frames -/

/-- The utilities by which a frame lays out its children. -/
def containerRequests (frame : Frame) : List Request :=
  match frame.mode with
  | .free => []
  | .horizontal => flowRequests true frame
  | .vertical => flowRequests false frame
  | .grid => gridRequests frame

end SceneMarkup.Layout
