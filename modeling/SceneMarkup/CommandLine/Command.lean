import SceneMarkup.CommandLine.Invocation
import SceneMarkup.CommandLine.Workspace
import SceneMarkup.Conversion
import SceneMarkup.Json.Reader
import SceneMarkup.Scene.Codec.Node

/-!
# The command

The command reads a selection from a file, converts it, and writes the two files of the conversion.

* `Failure`: arguments that are refused, or a run that failed with a message;
* `selectionOf`: the selection in the bytes of a file;
* `convertFor`: the output of a run whose files are given;
* `run`, `runArguments`: a whole run on a tree of files.
-/

namespace SceneMarkup.CommandLine

open Scene (Node)
open Picture (ExportError Exporter)

/-- Why a run ends without its files. -/
inductive Failure where
  | refused
  | failed (message : String)
  deriving DecidableEq, Repr

/-- The exit code of a failure. -/
def Failure.exitCode : Failure → UInt8
  | refused => 2
  | failed _ => 1

/-- The names of the formats. -/
def formats : List (String × Dialect) := [("html", .html), ("component", .jsx)]

/-- The options of a run. A format without that name is refused, and so is an empty directory. -/
def Invocation.options (invocation : Invocation) : Except Failure Options :=
  match formats.lookup invocation.format with
  | some dialect =>
    if invocation.out.isEmpty || invocation.vectors.any String.isEmpty then .error .refused
    else
      .ok { dialect, title := invocation.title, requireAutoLayout := invocation.requireAutoLayout }
  | none => .error .refused

/-- How deep the brackets of an input may be nested. -/
def maxDepth : Nat := 127

/-- The selection of an input: one node, or a list of nodes. -/
def selectionOfJson : Json → Option (List Node)
  | .array items => Scene.Codec.readNodes items
  | value => (Scene.Codec.readNode value).map fun node => [node]

/-- The selection in the bytes of an input file, if it is there. -/
def selectionOf (input : String) (bytes : Option ByteArray) : Except Failure (List Node) :=
  match bytes.bind String.fromUTF8? with
  | none => .error (.failed ("failed to read " ++ input))
  | some text =>
    match Json.read maxDepth text with
    | none => .error (.failed (input ++ " is not JSON"))
    | some value =>
      match selectionOfJson value with
      | none => .error (.failed (input ++ " is not a node tree"))
      | some selection => .ok selection

/-- The file that holds the picture of a node, if there is a directory of pictures. -/
def Invocation.pictureFile? (invocation : Invocation) (node : Node) : Option String :=
  invocation.vectors.map fun directory =>
    joinText directory (Naming.slug node.layer.id ++ ".svg")

/-- The pictures of a run, from its files. -/
def Invocation.exporter (invocation : Invocation) (file : String → Option ByteArray) : Exporter :=
  fun node =>
    match invocation.pictureFile? node with
    | none => .error (.unsupported "no directory of pictures")
    | some path =>
      match file path with
      | some bytes => .ok bytes
      | none => .error (.host path)

/-- The output of a run on a selection, with its files. -/
def convertFor (invocation : Invocation) (options : Options) (file : String → Option ByteArray)
    (selection : List Node) : Except Failure Output :=
  (convert options (invocation.exporter file) selection).mapError fun error =>
    .failed error.userMessage

/-- The failure to create the directory of the output. -/
def Invocation.cannotCreate (invocation : Invocation) : Failure :=
  .failed ("failed to create " ++ invocation.out)

/-- The failure to write a file of the output. -/
def Invocation.cannotWrite (invocation : Invocation) (name : String) : Failure :=
  .failed ("failed to write " ++ joinText invocation.out name)

/-- The tree with a file of the output. -/
def writeOutput (invocation : Invocation) (workspace : Workspace) (name text : String) :
    Except Failure Workspace :=
  match workspace.write? (joinText invocation.out name) text.toUTF8 with
  | some workspace => .ok workspace
  | none => .error (invocation.cannotWrite name)

/-- A run on a tree of files: the tree with the files of the output. -/
def run (invocation : Invocation) (workspace : Workspace) : Except Failure Workspace := do
  let options ← invocation.options
  let selection ← selectionOf invocation.input (workspace.read? invocation.input)
  let output ← convertFor invocation options workspace.read? selection
  match workspace.makeDirectories? invocation.out with
  | none => .error invocation.cannotCreate
  | some workspace =>
    let workspace ← writeOutput invocation workspace output.documentName output.document
    writeOutput invocation workspace output.stylesheetName output.stylesheet

/-- A run on a list of arguments. -/
def runArguments (arguments : List String) (workspace : Workspace) : Except Failure Workspace :=
  match Invocation.ofArguments? arguments with
  | none => .error .refused
  | some invocation => run invocation workspace

end SceneMarkup.CommandLine
