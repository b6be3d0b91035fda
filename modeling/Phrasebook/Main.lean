import Phrasebook.CommandLine.Execution

namespace Phrasebook

/-!
# The program

What the program looks at is taken into a file tree first, and what an execution adds to the tree
is written back afterwards. Everything in between is decided without input or output.
-/

/-- What stands at a place of the file system. -/
def probe
    (place : String) :
    IO (Option FileNode) := do
  try
    let actual ← IO.FS.realPath place
    if ← actual.isDir then
      return some .directory
    else
      return some (.file (← IO.FS.readBinFile actual).toList)
  catch _ =>
    return none

/-- A location as an absolute path. -/
def absoluteText
    (location : Location) :
    String :=
  "/" ++ "/".intercalate location

/-- Takes what stands at a location into a tree, and tells whether it is a directory. -/
def takeIn
    (tree : FileTree)
    (location : Location) :
    IO (FileTree × Bool) := do
  match ← probe (absoluteText location) with
  | none => return (tree, false)
  | some node => return (tree.put location node, node == .directory)

/-- Takes everything on the way along some segments into a tree. -/
def takeAlong
    (tree : FileTree)
    (location : Location) :
    (segments : List String) →
    IO FileTree
  | [] => return tree
  | segment :: segments => do
      let next := FileTree.step location segment
      let (extended, isDirectory) ← takeIn tree next
      if isDirectory then
        takeAlong extended next segments
      else
        return extended

/-- Takes everything on the way along a path into a tree. -/
def takePath
    (tree : FileTree)
    (path : Path) :
    IO FileTree :=
  takeAlong tree (tree.start path) path.segments

/-- The tree with nothing but the working directory. -/
def initialTree :
    IO FileTree := do
  let directory : Path := ⟨(← IO.currentDir).toString⟩
  let workingDirectory := directory.segments.filter (!Path.isIdle ·)
  takePath { workingDirectory := workingDirectory } directory

/-- The tree with all that an invocation depends on. -/
def observe
    (request : CommandLine.Request) :
    IO FileTree := do
  let tree ← takePath (← initialTree) request.configuration
  match request.sourceSets? tree with
  | .error _ => return tree
  | .ok sourceSets => (sourceSets.flatMap request.paths).foldlM takePath tree

/-- Writes what stands at a location of a tree. -/
def writeBack
    (entry : Location × FileNode) :
    IO Unit :=
  match entry with
  | (location, .directory) => IO.FS.createDirAll (absoluteText location)
  | (location, .file bytes) => IO.FS.writeBinFile (absoluteText location) ⟨bytes.toArray⟩

/-- Writes what a tree holds that an earlier one does not, in the order in which it was added. -/
def writeChanges
    (before after : FileTree) :
    IO Unit :=
  let added := after.nodes.filter fun (location, node) => before.nodeAt? location != some node
  added.reverse.forM writeBack

/-- Carries out what an argument list asks for. -/
def perform
    (invocation : Except CommandLine.UsageFault CommandLine.Invocation) :
    IO UInt32 := do
  let before ←
    match invocation with
    | .ok (.process request) => observe request
    | _ => initialTree
  let outcome := CommandLine.execute before invocation
  writeChanges before outcome.tree
  IO.print outcome.output
  IO.eprint outcome.complaint
  return outcome.code.toUInt32

end Phrasebook

/-- Runs the program on its arguments. -/
def main
    (arguments : List String) :
    IO UInt32 :=
  Phrasebook.perform (Phrasebook.CommandLine.parse arguments)
