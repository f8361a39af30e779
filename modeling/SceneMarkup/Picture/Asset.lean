import Std.Data.TreeMap
import SceneMarkup.Naming.Slug
import SceneMarkup.Picture.Inline
import SceneMarkup.Scene.Node

/-!
# Exported pictures

The caller turns a node into a picture on request. A picture that cannot be had becomes a
placeholder.

* `ExportError`, `Exporter`: why there is no picture, and who is asked for it;
* `Asset`, `decode`: what stands for a picture, and the text of exported bytes;
* `wanted`: the nodes that are shown as pictures, in document order: none below a hidden node or a
  spacer, and none below another picture;
* `requested`: those of them that the caller is asked for;
* `Assets.fetch`: what stands for every picture below a root.
-/

namespace SceneMarkup.Picture

open Scene (Node)

/-- Why there is no picture of a node. -/
inductive ExportError where
  | unsupported (reason : String)
  | host (reason : String)
  | notText
  deriving DecidableEq, Repr

/-- The text of an error. -/
def ExportError.message : ExportError → String
  | unsupported reason => "unsupported geometry: " ++ reason
  | host reason => "host export failed: " ++ reason
  | notText => "exported image is not UTF-8 text"

/-- Turns a node into the bytes of a picture. -/
abbrev Exporter := Node → Except ExportError ByteArray

/-- The caller that has no pictures. -/
def noExporter : Exporter := fun node => .error (.unsupported ("no exporter for " ++ node.layer.id))

/-- What stands for a picture. -/
inductive Asset where
  | svg (text : String)
  | placeholder
  deriving DecidableEq, Repr

/-- The text of an exported picture, with names of its own. -/
def decode (bytes : ByteArray) (id : String) : Except ExportError String :=
  match String.fromUTF8? bytes with
  | some text => .ok (inlined text (Naming.slug id))
  | none => .error .notText

/-- What stands for the picture of a node. One that would show nothing is not asked for. -/
def fetchOne (exporter : Exporter) (node : Node) : Asset :=
  if node.layer.hasVisiblePaint then
    match exporter node >>= fun bytes => decode bytes node.layer.id with
    | .ok text => .svg text
    | .error _ => .placeholder
  else .placeholder

mutual

/-- The nodes at and below a node that are shown as pictures. -/
def wanted : Node → List Node
  | .mk layer children =>
    if layer.isVectorLike then [.mk layer children] else wantedIn children

/-- The nodes at and below children that are shown as pictures. -/
def wantedIn : List Node → List Node
  | [] => []
  | child :: rest =>
    (if child.layer.visible && !child.isSpacer then wanted child else []) ++ wantedIn rest

end

/-- The nodes that the caller is asked for, in order. -/
def requested (root : Node) : List Node :=
  (wanted root).filter fun node => node.layer.hasVisiblePaint

/-- What stands for each picture, by the identifier of its node. -/
abbrev Assets := Std.TreeMap String Asset

namespace Assets

/-- What stands for every picture below a root; of nodes with one identifier the last counts. -/
def fetch (exporter : Exporter) (root : Node) : Assets :=
  (wanted root).foldl (fun assets node => assets.insert node.layer.id (fetchOne exporter node)) {}

/-- What stands for the picture of a node. -/
def find (assets : Assets) (id : String) : Asset := assets.getD id .placeholder

end Assets

end SceneMarkup.Picture
