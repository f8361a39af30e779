import SceneMarkup.CommandLine.Command

/-!
# The program

`main` reads the arguments, runs the command on the files of the machine, and reports a failure by
its exit code and its message.
-/

namespace SceneMarkup.CommandLine

/-- The bytes of a file of the machine, if it can be read. -/
def readFile? (path : String) : IO (Option ByteArray) := do
  try return some (← IO.FS.readBinFile path) catch _ => return none

/-- The files of the pictures that a selection asks for. -/
def readPictures (invocation : Invocation) (options : Options) (selection : List Scene.Node) :
    IO (List (String × ByteArray)) := do
  match selectRoot options selection with
  | .error _ => return []
  | .ok root =>
    let paths := (Picture.requested root).filterMap invocation.pictureFile?
    paths.filterMapM fun path => do return (← readFile? path).map fun bytes => (path, bytes)

/-- A step that fails with a given failure if the machine refuses it. -/
def orFail (failure : Failure) (step : IO Unit) : ExceptT Failure IO Unit := do
  let done ← (do try step; return true catch _ => return false : IO Bool)
  if !done then throw failure

/-- Makes the directories of a path, which has to lead to one then. -/
def makeDirectories (path : String) : IO Unit := do
  let top := if path.startsWith "/" then "/" else "./"
  IO.FS.createDirAll (top ++ "/".intercalate (madeNames path))
  discard (IO.FS.realPath path)

/-- A run on the files of the machine. -/
def runOnMachine (invocation : Invocation) : ExceptT Failure IO Unit := do
  let options ← invocation.options
  let selection ← selectionOf invocation.input (← readFile? invocation.input)
  let pictures ← readPictures invocation options selection
  let output ← convertFor invocation options (fun path => pictures.lookup path) selection
  orFail invocation.cannotCreate (makeDirectories invocation.out)
  for (name, text) in
      [(output.documentName, output.document), (output.stylesheetName, output.stylesheet)] do
    orFail (invocation.cannotWrite name) (IO.FS.writeFile (joinText invocation.out name) text)

end SceneMarkup.CommandLine

open SceneMarkup.CommandLine in
/-- Runs the command on the arguments. -/
def main (arguments : List String) : IO UInt32 := do
  match Invocation.ofArguments? arguments with
  | none => return Failure.refused.exitCode.toUInt32
  | some invocation =>
    match ← (runOnMachine invocation).run with
    | .ok () => return 0
    | .error failure =>
      if let .failed message := failure then IO.eprintln ("Error: " ++ message)
      return failure.exitCode.toUInt32
