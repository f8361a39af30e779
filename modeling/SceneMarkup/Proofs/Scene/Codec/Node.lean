import SceneMarkup.Proofs.Scene.Codec.Frame
import SceneMarkup.Proofs.Scene.Codec.TextStyle
import SceneMarkup.Proofs.Scene.Visits
import SceneMarkup.Scene.Codec.Node

/-!
# Nodes are read back

A node is written as one record, with the fields of its kind among those of its layer and with its
children in a field. From every form of that record the same node is read.

* `Kind.numbers`, `Layer.numbers`, `Node.numbers`: the numbers of a node and of everything in it;
* `readLayer_of_holds`: a layer is read from the fields that it was written to;
* `nodup_nodeKeys`: no field of a kind has the key of another field of a node;
* `readNode_of_extendedTo`: **a node whose numbers are finite is read from every form of its
  record.**
-/

namespace SceneMarkup.Scene

/-! ### Numbers -/

def Kind.numbers : Kind → List Single
  | .frame layout => layout.numbers
  | .text style => style.numbers
  | .group | .rectangle | .ellipse | .vector => []

def Layer.numbers (layer : Layer) : List Single :=
  [layer.opacity, layer.rotation, layer.x, layer.y, layer.width, layer.height, layer.strokeWeight,
    layer.grow] ++
    layer.kind.numbers ++ layer.bounds.toList.flatMap Bounds.numbers ++ layer.cornerRadius.toList ++
    layer.topLeftRadius.toList ++ layer.topRightRadius.toList ++ layer.bottomRightRadius.toList ++
    layer.bottomLeftRadius.toList ++ layer.fills.flatMap Paint.numbers ++
    layer.strokes.flatMap Paint.numbers ++
    layer.effects.flatMap Effect.numbers

mutual

/-- The numbers of a node and of everything in it. -/
def Node.numbers : Node → List Single
  | .mk layer children => layer.numbers ++ numbersIn children

/-- The numbers of nodes one after the other. -/
def numbersIn : List Node → List Single
  | [] => []
  | node :: rest => node.numbers ++ numbersIn rest

end

theorem numbersIn_eq_flatMap (nodes : List Node) :
    numbersIn nodes = nodes.flatMap Node.numbers := by
  induction nodes with
  | nil => rfl
  | cons node rest ih => rw [numbersIn, ih, List.flatMap_cons]

namespace Codec

open Json (ExtendedTo)

/-! ### Layers -/

/-- What is read of a node's fields is its kind, and its type is a text. -/
theorem readKind_of_holds {fields : Fields} {kind : Kind} (finite : AllFinite kind.numbers)
    (holds : HoldsAll fields (kindFields exactNumber kind)) :
    (required text fields "type").bind (readKind fields) = some kind := by
  cases kind with
  | frame frame =>
    obtain ⟨type, inside⟩ := holdsAll_cons.1 holds
    rw [required_of_holds type (reads_text _), Option.bind_some, readKind, if_pos (by decide),
      readFrame_of_holds .nullOrEmpty finite inside]
    rfl
  | text style =>
    obtain ⟨type, inside⟩ := holdsAll_cons.1 holds
    rw [required_of_holds type (reads_text _), Option.bind_some, readKind, if_neg (by decide),
      if_neg (by decide), if_neg (by decide), if_pos rfl, readTextStyle_of_holds finite inside]
    rfl
  | _ =>
    rw [required_of_holds (holdsAll_cons.1 holds).1 (reads_text _)]
    rfl

/-- A layer is read from the fields that it was written to. -/
theorem readLayer_of_holds {fields : Fields} {layer : Layer} (finite : AllFinite layer.numbers)
    (holds : HoldsAll fields (layerFields exactNumber layer)) : readLayer fields = some layer := by
  simp only [AllFinite, Layer.numbers, List.forall_mem_append, List.forall_mem_cons] at finite
  obtain ⟨⟨⟨⟨⟨⟨⟨⟨⟨⟨⟨opacity, rotation, x, y, width, height, weight, grow, -⟩, kind⟩, bounds⟩,
    corner⟩, topLeft⟩, topRight⟩, bottomRight⟩, bottomLeft⟩, fills⟩, strokes⟩, effects⟩ := finite
  simp only [layerFields, holdsAll_append, holdsAll_cons] at holds
  obtain ⟨⟨⟨id, name, -⟩, holdsKind⟩, visible, holdsOpacity, blendMode, holdsRotation, holdsX,
    holdsY, holdsWidth, holdsHeight, holdsBounds, holdsCorner, holdsTopLeft, holdsTopRight,
    holdsBottomRight, holdsBottomLeft, holdsFills, holdsStrokes, holdsWeight, strokeAlign,
    holdsEffects, isMask, maskType, positioning, constraints, sizingHorizontal, sizingVertical,
    holdsGrow, crossAlign, -⟩ := holds
  obtain ⟨type, isType, isKind⟩ := Option.bind_eq_some_iff.1 (readKind_of_holds kind holdsKind)
  have eachFill : ∀ paint ∈ layer.fills, Reads readPaint (writePaint exactNumber paint) paint :=
    fun paint mem => reads_paint (List.forall_mem_flatMap.1 fills paint mem)
  have eachStroke : ∀ paint ∈ layer.strokes, Reads readPaint (writePaint exactNumber paint) paint :=
    fun paint mem => reads_paint (List.forall_mem_flatMap.1 strokes paint mem)
  have eachEffect : ∀ effect ∈ layer.effects,
      Reads readEffect (writeEffect exactNumber effect) effect :=
    fun effect mem => reads_effect (List.forall_mem_flatMap.1 effects effect mem)
  have isBounds : optional readBounds fields "absoluteBoundingBox" = some layer.bounds :=
    optional_of_holds holdsBounds
      (fun box mem => reads_bounds (List.forall_mem_flatMap.1 bounds box (Option.mem_toList.2 mem)))
      fun _ _ same => by cases same
  simp only [readLayer, required_of_holds id (reads_text _), defaulted_of_holds name (reads_text _),
    isType, isKind, defaulted_of_holds visible (reads_boolean _),
    defaulted_of_holds holdsOpacity (reads_single opacity),
    defaulted_of_holds blendMode (reads_keywords complete_blendModes .null _),
    defaulted_of_holds holdsRotation (reads_single rotation),
    defaulted_of_holds holdsX (reads_single x), defaulted_of_holds holdsY (reads_single y),
    defaulted_of_holds holdsWidth (reads_single width),
    defaulted_of_holds holdsHeight (reads_single height), isBounds,
    optional_single_of_holds holdsCorner corner, optional_single_of_holds holdsTopLeft topLeft,
    optional_single_of_holds holdsTopRight topRight,
    optional_single_of_holds holdsBottomRight bottomRight,
    optional_single_of_holds holdsBottomLeft bottomLeft,
    defaulted_of_holds holdsFills (reads_items eachFill),
    defaulted_of_holds holdsStrokes (reads_items eachStroke),
    defaulted_of_holds holdsWeight (reads_single weight),
    defaulted_of_holds strokeAlign (reads_keywords complete_strokeAligns .null _),
    defaulted_of_holds holdsEffects (reads_items eachEffect),
    defaulted_of_holds isMask (reads_boolean _),
    defaulted_of_holds maskType (reads_keywords complete_maskTypes .null _),
    defaulted_of_holds positioning (reads_keywords complete_positionings .null _),
    defaulted_of_holds constraints (reads_constraints _),
    optional_keyword_of_holds complete_sizings .null sizingHorizontal,
    optional_keyword_of_holds complete_sizings .null sizingVertical,
    defaulted_of_holds holdsGrow (reads_single grow),
    defaulted_of_holds crossAlign (reads_crossAlign _), Option.bind_eq_bind, Option.bind_some,
    Option.pure_def]

/-! ### Nodes -/

theorem readNodes_eq_mapM (values : List Json) : readNodes values = values.mapM readNode := by
  induction values with
  | nil => rfl
  | cons value rest ih => rw [readNodes, ih, List.mapM_cons]

/-- The children are a field of their own. -/
theorem readChildren_eq_defaulted (fields : Fields) :
    readChildren fields = defaulted (items readNode) [] fields "children" := by
  induction fields with
  | nil => rfl
  | cons field rest ih =>
    obtain ⟨key, value⟩ := field
    unfold readChildren
    rw [ih, defaulted, defaulted, Json.lookup_cons]
    cases Json.lookup "children" rest with
    | some found => rfl
    | none =>
      by_cases here : key = "children"
      · subst here
        cases value with
        | array values => exact readNodes_eq_mapM values
        | _ => rfl
      · simp only [if_neg here]
        rfl

theorem writeNodes_eq_map (number : Single → Json) (nodes : List Node) :
    writeNodes number nodes = nodes.map (writeNode number) := by
  induction nodes with
  | nil => rfl
  | cons node rest ih => rw [writeNodes, ih, List.map_cons]

/-- No field of a kind has the key of another field of a node. -/
theorem nodup_nodeKeys (layer : Layer) (children : Json) :
    ((layerFields exactNumber layer ++ [("children", children)]).map Prod.fst).Nodup := by
  rw [layerFields]
  cases layer.kind <;>
    simp only [kindFields, frameFields, textStyleFields, List.map, List.cons_append,
      List.nil_append] <;>
    decide

/-- **A node is read from every form of its record**: with the keys of all objects in any order and
others among them, and with whole numbers written with a fraction or without. -/
theorem readNode_of_extendedTo {node : Node} (finite : AllFinite node.numbers) {value : Json}
    (extended : ExtendedTo (writeNode exactNumber node) value) : readNode value = some node := by
  induction node using Node.induct generalizing value with
  | mk layer children ih =>
    rw [Node.numbers, numbersIn_eq_flatMap] at finite
    obtain ⟨inLayer, inChildren⟩ := List.forall_mem_append.1 finite
    rw [writeNode, writeNodes_eq_map] at extended
    obtain ⟨fields, rfl, holds⟩ := extended.object_inv (nodup_nodeKeys layer _)
    obtain ⟨holdsLayer, holdsChildren⟩ := holdsAll_append.1 holds
    have each : ∀ child ∈ children, Reads readNode (writeNode exactNumber child) child :=
      fun child mem _ => ih child mem (List.forall_mem_flatMap.1 inChildren child mem)
    rw [readNode, readLayer_of_holds inLayer holdsLayer, readChildren_eq_defaulted,
      defaulted_of_holds (holdsAll_cons.1 holdsChildren).1 (reads_items each)]
    rfl

/-- A row with a box in it. -/
def paintedRow : Node :=
  .mk { id := "1:2", name := "Row", kind := .frame { mode := .horizontal, lineSpacing := some 8 },
        width := 40, bounds := some ⟨0.5, -2, 40, 8⟩,
        fills := [.solid { red := 0.25, green := 0.5, blue := 1 }] }
    [.mk { id := "1:3", kind := .rectangle, x := -0.125, crossAlign := .stretch } []]

/-- The fields of its record. -/
def paintedFields : Fields :=
  layerFields exactNumber paintedRow.layer ++
    [("children", .array (writeNodes exactNumber paintedRow.children))]

theorem readNode_of_reversed_paintedFields :
    AllFinite paintedRow.numbers ∧ writeNode exactNumber paintedRow = .object paintedFields ∧
      readNode (.object (("locked", .bool true) :: paintedFields.reverse)) = some paintedRow := by
  have finite : AllFinite paintedRow.numbers := by decide +kernel
  have new : ∀ field ∈ [("locked", Json.bool true)],
      field.1 ∉ paintedFields.map Prod.fst := fun field mem => by
    rw [List.mem_singleton.1 mem]
    decide +kernel
  have order : (("locked", Json.bool true) :: paintedFields.reverse).Perm
      (paintedFields ++ [("locked", Json.bool true)]) :=
    ((List.reverse_perm _).cons _).trans (List.perm_append_singleton _ _).symm
  exact ⟨finite, rfl, readNode_of_extendedTo finite (Json.extendedTo_of_perm new order)⟩

end Codec

end SceneMarkup.Scene
