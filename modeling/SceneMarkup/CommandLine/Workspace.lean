/-!
# A tree of files

Commands read and write a tree of files, seen from one of its directories.

* `Entry`: a file or a directory with everything in it; `Entry.find?` and `Entry.put` look up and
  replace what is at a place;
* `Workspace`: a tree, and the directory that paths begin in;
* `Workspace.place?`: where a path leads. Every directory on the way has to be there, also one that
  the path leaves again by the name of the parent;
* `Workspace.read?`, `makeDirectories?`, `write?`: the operations; a file is no directory, a
  directory cannot be written to, and no name and no path may be too long.
-/

namespace SceneMarkup.CommandLine

/-- A file with its bytes, or a directory with its entries by name. -/
inductive Entry where
  | file (bytes : ByteArray)
  | directory (entries : List (String × Entry))

/-- The names from the top of a tree to an entry. -/
abbrev Place := List String

namespace Entry

/-- A directory without entries. -/
def empty : Entry := .directory []

def isDirectory : Entry → Bool
  | file _ => false
  | directory _ => true

/-- The entry at a place below another one. -/
def find? : Place → Entry → Option Entry
  | [], entry => some entry
  | _ :: _, file _ => none
  | name :: rest, directory entries => (entries.lookup name).bind (find? rest)

/-- The tree with an entry put at a place. Directories that are missing on the way are added; below
a file nothing is put. -/
def put (new : Entry) : Place → Entry → Entry
  | [], _ => new
  | _ :: _, file bytes => .file bytes
  | name :: rest, directory entries =>
    let old := (entries.lookup name).getD empty
    .directory ((name, put new rest old) :: entries.filter (·.1 != name))

end Entry

/-! ### Paths -/

/-- The names in a path; empty names and the name of the directory itself lead nowhere. -/
def namesOf (path : String) : List String :=
  (path.splitOn "/").filter fun name => name != "" && name != "."

/-- The path ends with the name of the directory itself. -/
def endsInItself (path : String) : Bool :=
  ((path.splitOn "/").filter (· != "")).getLast? == some "."

/-- The names of the directories that are made for a path. The last one is not made for a path that
ends with the name of the directory itself: that name can only be found where there is a
directory. -/
def madeNames (path : String) : List String :=
  if endsInItself path then (namesOf path).dropLast else namesOf path

/-- The text of a name in a directory. -/
def joinText (directory name : String) : String :=
  if directory.endsWith "/" then directory ++ name else directory ++ "/" ++ name

/-- The most bytes that a name may have. -/
def maxNameBytes : Nat := 255

/-- The most bytes that a path may have. -/
def maxPathBytes : Nat := 4095

/-- A name that is short enough for a file or a directory. -/
def fits (name : String) : Bool := decide (name.utf8ByteSize ≤ maxNameBytes)

/-- The place that a name leads to from a directory. The top is its own parent. -/
def step (place : Place) (name : String) : Place :=
  if name = ".." then place.dropLast else place ++ [name]

/-! ### Workspaces -/

/-- A tree of files, and the place of the directory that paths begin in. At first that directory is
empty, and nothing but the way to it is in the tree. -/
structure Workspace where
  top : Entry := .directory [("tmp", .directory [("work", .empty)])]
  here : Place := ["tmp", "work"]

namespace Workspace

/-- A directory is at a place. -/
def isDirectory (workspace : Workspace) (place : Place) : Bool :=
  (Entry.find? place workspace.top).any Entry.isDirectory

/-- The tree with an entry at a place. -/
def put (workspace : Workspace) (place : Place) (entry : Entry) : Workspace :=
  { workspace with top := entry.put place workspace.top }

/-- Where a path begins. -/
def start (workspace : Workspace) (path : String) : Place :=
  if path.startsWith "/" then [] else workspace.here

/-- Where names lead from a place. -/
def follow? (workspace : Workspace) (place : Place) : List String → Option Place
  | [] => some place
  | name :: rest =>
    if workspace.isDirectory place && fits name then workspace.follow? (step place name) rest
    else none

/-- Where a path leads. -/
def place? (workspace : Workspace) (path : String) : Option Place :=
  if path.utf8ByteSize ≤ maxPathBytes then
    workspace.follow? (workspace.start path) (namesOf path)
  else none

/-- What a path leads to. -/
def find? (workspace : Workspace) (path : String) : Option Entry :=
  (workspace.place? path).bind fun place => Entry.find? place workspace.top

/-- The bytes of a file, if there is one. -/
def read? (workspace : Workspace) (path : String) : Option ByteArray :=
  match workspace.find? path with
  | some (.file bytes) => some bytes
  | _ => none

/-- The tree with all directories that names lead through from a place. -/
def addDirectories? (workspace : Workspace) (place : Place) : List String → Option Workspace
  | [] => some workspace
  | name :: rest =>
    let next := step place name
    match Entry.find? next workspace.top with
    | some (.directory _) => workspace.addDirectories? next rest
    | some (.file _) => none
    | none => if fits name then (workspace.put next .empty).addDirectories? next rest else none

/-- The tree with the directories that are made for a path, if a directory is there then. -/
def makeDirectories? (workspace : Workspace) (path : String) : Option Workspace :=
  if path.utf8ByteSize ≤ maxPathBytes then
    (workspace.addDirectories? (workspace.start path) (madeNames path)).filter fun made =>
      (made.find? path).any Entry.isDirectory
  else none

/-- The tree with a file of some bytes, if its directory is there and no directory has its name. -/
def write? (workspace : Workspace) (path : String) (bytes : ByteArray) : Option Workspace := do
  let place ← workspace.place? path
  if workspace.isDirectory place then none else some (workspace.put place (.file bytes))

/-- The names and the bytes of the files of a directory. -/
def filesOf (workspace : Workspace) (directory : String) : List (String × ByteArray) :=
  match workspace.find? directory with
  | some (.directory entries) =>
    entries.filterMap fun (name, entry) =>
      match entry with
      | .file bytes => some (name, bytes)
      | .directory _ => none
  | _ => []

end Workspace

end SceneMarkup.CommandLine
