import SceneMarkup.Layout.Container
import SceneMarkup.Layout.Sizing
import SceneMarkup.Proofs.Scene.Codec.Frame
import SceneMarkup.Typography.Content

/-!
# The utilities that there are

Whatever a frame, a slot or a text is like, the utilities that it asks for are a few fixed ones, and
a few with an amount.

* `fixedUtilities`, `lengthUtilities`, `trackUtilities`: the tables of these;
* `IsUtility`: a request that is in one of the tables, or keeps paragraphs apart;
* `HoldsOfUtilities`, `HoldsOfUtilities.containerRequests`: what holds of the utilities with some
  lengths holds of those of a frame that has no others;
* `isUtility_containerRequests`, `isUtility_sizeIn`, `isUtility_fontSizeRequest`: no other utility
  is ever asked for.
-/

namespace SceneMarkup.Layout

open Scene (CounterAlign Frame Layer MainAlign)

/-- The utilities without an amount. -/
def fixedUtilities : List Request :=
  [fixed "grow" [⟨"flex-grow", "1"⟩, ⟨"flex-basis", "0"⟩],
    fixed "self-stretch" [⟨"align-self", "stretch"⟩],
    fixed "shrink-0" [⟨"flex-shrink", "0"⟩],
    fixed "flex" [⟨"display", "flex"⟩],
    fixed "flex-row" [⟨"flex-direction", "row"⟩],
    fixed "flex-col" [⟨"flex-direction", "column"⟩],
    fixed "flex-wrap" [⟨"flex-wrap", "wrap"⟩],
    fixed "content-between" [⟨"align-content", "space-between"⟩],
    fixed "grid" [⟨"display", "grid"⟩]] ++
    [MainAlign.min, .max, .center, .spaceBetween].map mainAlignRequest ++
    [none, some CounterAlign.min, some .max, some .center, some .baseline].map counterAlignRequest

/-- The utilities for a length, and the property that each sets. -/
def lengthUtilities : List (String × String) :=
  [("p", "padding"), ("pt", "padding-top"), ("pr", "padding-right"), ("pb", "padding-bottom"),
    ("pl", "padding-left"), ("gap", "gap"), ("gap-x", "column-gap"), ("gap-y", "row-gap"),
    ("text", "font-size")]

/-- The utilities for a number of tracks, and the property that each sets. -/
def trackUtilities : List (String × String) :=
  [("grid-rows", "grid-template-rows"), ("grid-cols", "grid-template-columns")]

/-- A utility that nodes ask for. -/
inductive IsUtility : Request → Prop where
  | plain {request : Request} (listed : request ∈ fixedUtilities) : IsUtility request
  | length {name property : String} (listed : (name, property) ∈ lengthUtilities)
    (length : Single) :
    IsUtility (lengthUtility name property length)
  | tracks {name property : String} (listed : (name, property) ∈ trackUtilities) (count : Nat) :
    IsUtility (fixed (name ++ "-" ++ toString count)
      [⟨property, "repeat(" ++ toString count ++ ", minmax(0, 1fr))"⟩])
  | paragraph (spacing : Single) : IsUtility (Typography.paragraphRequest spacing)

/-! ### Containers -/

/-- What holds of the utilities in the tables, if their lengths are among some. -/
structure HoldsOfUtilities (kind : Request → Prop) (lengths : List Single) : Prop where
  plain : ∀ request ∈ fixedUtilities, kind request
  length : ∀ {name property : String}, (name, property) ∈ lengthUtilities → ∀ length ∈ lengths,
    kind (lengthUtility name property length)
  tracks : ∀ {name property : String}, (name, property) ∈ trackUtilities → ∀ count : UInt32,
    kind (fixed (name ++ "-" ++ toString count.toNat)
      [⟨property, "repeat(" ++ toString count.toNat ++ ", minmax(0, 1fr))"⟩])

theorem getD_mem {α : Type} {x? : Option α} {x : α} {l : List α} (given : x?.toList ⊆ l)
    (otherwise : x ∈ l) :
    x?.getD x ∈ l := by
  cases x? with
  | none => exact otherwise
  | some y => exact given List.mem_cons_self

namespace HoldsOfUtilities

variable {kind : Request → Prop} {frame : Frame}

theorem lengthUtility? {lengths : List Single} (holds : HoldsOfUtilities kind lengths)
    {name property : String} (listed : (name, property) ∈ lengthUtilities) {length : Single}
    (given : length ∈ lengths) :
    ∀ request ∈ Layout.lengthUtility? name property length, kind request := by
  intro request mem
  unfold Layout.lengthUtility? at mem
  split at mem
  · cases mem
  · rw [List.mem_singleton.1 mem]
    exact holds.length listed length given

theorem trackRequests {lengths : List Single} (holds : HoldsOfUtilities kind lengths)
    {name property : String} (listed : (name, property) ∈ trackUtilities) (count : UInt32) :
    ∀ request ∈ Layout.trackRequests name property count, kind request := by
  intro request mem
  unfold Layout.trackRequests at mem
  split at mem
  · cases mem
  · rw [List.mem_singleton.1 mem]
    exact holds.tracks listed count

variable (holds : HoldsOfUtilities kind frame.numbers)
include holds

theorem paddingRequests : ∀ request ∈ Layout.paddingRequests frame, kind request := by
  intro request mem
  unfold Layout.paddingRequests at mem
  split at mem
  · exact holds.lengthUtility? (by decide) (by simp [Frame.numbers]) request mem
  · simp only [List.mem_append] at mem
    rcases mem with ((mem | mem) | mem) | mem <;>
      exact holds.lengthUtility? (by decide) (by simp [Frame.numbers]) request mem

theorem wrapRequests (horizontal : Bool) :
    ∀ request ∈ Layout.wrapRequests horizontal frame, kind request := by
  intro request mem
  unfold Layout.wrapRequests at mem
  split at mem
  · cases mem
  · simp only [List.mem_append, List.mem_singleton] at mem
    rcases mem with (rfl | mem) | mem
    · exact holds.plain _ (by decide)
    · split at mem
      · rw [List.mem_singleton.1 mem]
        exact holds.plain _ (by decide)
      · cases mem
    · split at mem
      · next spacing given =>
        have listed : spacing ∈ frame.numbers := by simp [Frame.numbers, given]
        split at mem
        · exact holds.lengthUtility? (by decide) listed request mem
        · exact holds.lengthUtility? (by decide) listed request mem
      · cases mem

theorem spacingRequests (horizontal : Bool) :
    ∀ request ∈ Layout.spacingRequests horizontal frame, kind request := by
  have listed : frame.itemSpacing ∈ frame.numbers := by simp [Frame.numbers]
  intro request mem
  unfold Layout.spacingRequests at mem
  split at mem
  · cases mem
  · exact holds.lengthUtility? (by decide) listed request mem
  · split at mem
    · exact holds.lengthUtility? (by decide) listed request mem
    · exact holds.lengthUtility? (by decide) listed request mem

theorem flowRequests (horizontal : Bool) :
    ∀ request ∈ Layout.flowRequests horizontal frame, kind request := by
  have listed : ∀ align, mainAlignRequest align ∈ fixedUtilities := by
    intro align
    cases align <;> decide
  have listedToo : ∀ align?, counterAlignRequest align? ∈ fixedUtilities := by
    rintro (_ | align)
    · decide
    · cases align <;> decide
  intro request mem
  simp only [Layout.flowRequests, List.mem_append, List.mem_cons, List.not_mem_nil, or_false] at mem
  rcases mem with ((((rfl | rfl) | mem) | mem) | mem) | rfl | rfl
  · exact holds.plain _ (by decide)
  · cases horizontal <;> exact holds.plain _ (by decide)
  · exact holds.wrapRequests _ _ mem
  · exact holds.spacingRequests _ _ mem
  · exact holds.paddingRequests _ mem
  · exact holds.plain _ (listed _)
  · exact holds.plain _ (listedToo _)

theorem gridGapRequests : ∀ request ∈ Layout.gridGapRequests frame, kind request := by
  have rows : gridRowGap frame ∈ frame.numbers :=
    getD_mem (fun gap mem => by simp [Frame.numbers, Option.mem_toList.1 mem])
      (by simp [Frame.numbers])
  have columns : gridColumnGap frame ∈ frame.numbers :=
    getD_mem (fun gap mem => by simp [Frame.numbers, Option.mem_toList.1 mem])
      (by simp [Frame.numbers])
  intro request mem
  unfold Layout.gridGapRequests at mem
  split at mem
  · exact holds.lengthUtility? (by decide) rows request mem
  · rcases List.mem_append.1 mem with mem | mem
    · exact holds.lengthUtility? (by decide) rows request mem
    · exact holds.lengthUtility? (by decide) columns request mem

theorem gridRequests : ∀ request ∈ Layout.gridRequests frame, kind request := by
  intro request mem
  simp only [Layout.gridRequests, List.mem_append, List.mem_singleton] at mem
  rcases mem with (((rfl | mem) | mem) | mem) | mem
  · exact holds.plain _ (by decide)
  · exact holds.trackRequests (by decide) _ _ mem
  · exact holds.trackRequests (by decide) _ _ mem
  · exact holds.gridGapRequests _ mem
  · exact holds.paddingRequests _ mem

/-- What holds of the utilities with the lengths of a frame holds of those that it asks for. -/
theorem containerRequests : ∀ request ∈ Layout.containerRequests frame, kind request := by
  intro request mem
  unfold Layout.containerRequests at mem
  split at mem
  · cases mem
  · exact holds.flowRequests _ _ mem
  · exact holds.flowRequests _ _ mem
  · exact holds.gridRequests _ mem

end HoldsOfUtilities

/-- The utilities of a container. -/
theorem isUtility_containerRequests (frame : Frame) :
    ∀ request ∈ containerRequests frame, IsUtility request :=
  HoldsOfUtilities.containerRequests
    { plain := fun _ => .plain
      length := fun listed length _ => .length listed length
      tracks := fun listed count => .tracks listed count.toNat }

/-! ### Sizes -/

/-- The utilities that size a node in its placement have no amount. -/
theorem mem_fixedUtilities_of_mem_sizeIn {placement : Placement} {layer : Layer} :
    ∀ request ∈ (sizeIn placement layer).requests, request ∈ fixedUtilities := by
  intro request mem
  cases placement with
  | root => cases mem
  | grid => cases mem
  | absolute => cases mem
  | flex mainAxis =>
    -- Three fixed utilities, each asked for or not.
    replace mem : request ∈ flowSizeRequests layer mainAxis := mem
    simp only [flowSizeRequests, List.mem_append] at mem
    rcases mem with (mem | mem) | mem <;> split at mem
    all_goals first
      | cases mem; done
      | rw [List.mem_singleton.1 mem]; decide

theorem isUtility_sizeIn (placement : Placement) (layer : Layer) :
    ∀ request ∈ (sizeIn placement layer).requests, IsUtility request :=
  fun request mem => .plain (mem_fixedUtilities_of_mem_sizeIn request mem)

theorem isUtility_fontSizeRequest (size : Single) : IsUtility (fontSizeRequest size) :=
  .length (by decide) size

end SceneMarkup.Layout
