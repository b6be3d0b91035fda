import Phrasebook.Path

namespace Phrasebook

/-!
# File trees

A tree of files and directories without links. A location is the list of names that leads from the
root to a file or directory. Paths are followed one segment at a time, each from an existing
directory, and a relative path starts at the working directory.
-/

/-- The names that lead from the root to a file or directory. -/
abbrev Location :=
  List String

/-- What stands at a location. -/
inductive FileNode where
  | file (bytes : List UInt8)
  | directory
  deriving Repr, DecidableEq

/-- Files and directories by their locations, and the directory where relative paths start. The
root is always a directory. -/
structure FileTree where
  workingDirectory : Location := []
  nodes : List (Location × FileNode) := []
  deriving Repr, DecidableEq

/-- Why a path cannot be used. -/
inductive FileFault where
  | notFound
  | alreadyExists
  | notDirectory
  | isDirectory
  deriving Repr, DecidableEq

namespace FileFault

/-- The message of a fault. -/
def message :
    FileFault →
    String
  | .notFound => "No such file or directory (os error 2)"
  | .alreadyExists => "File exists (os error 17)"
  | .notDirectory => "Not a directory (os error 20)"
  | .isDirectory => "Is a directory (os error 21)"

end FileFault

namespace FileTree

/-- What stands at a location. -/
def nodeAt?
    (tree : FileTree)
    (location : Location) :
    Option FileNode :=
  if location.isEmpty then
    some .directory
  else
    tree.nodes.lookup location

/-- A tree in which a node stands at a location, in place of what stood there. -/
def put
    (tree : FileTree)
    (location : Location)
    (node : FileNode) :
    FileTree :=
  { tree with nodes := (location, node) :: tree.nodes.filter (·.1 != location) }

/-- The location that a segment leads to. -/
def step
    (location : Location)
    (segment : String) :
    Location :=
  if Path.isIdle segment then
    location
  else if segment == ".." then
    location.dropLast
  else
    location ++ [segment]

/-- Follows segments from a location. Each is followed from an existing directory. -/
def follow
    (tree : FileTree)
    (location : Location) :
    List String →
    Except FileFault Location
  | [] => .ok location
  | segment :: segments =>
      match tree.nodeAt? location with
      | some .directory => tree.follow (step location segment) segments
      | some (.file _) => .error .notDirectory
      | none => .error .notFound

/-- The location where a path starts. -/
def start
    (tree : FileTree)
    (path : Path) :
    Location :=
  if path.isAbsolute then
    []
  else
    tree.workingDirectory

/-- The location that a path leads to, be there anything or not. The empty path leads nowhere. -/
def locate
    (tree : FileTree)
    (path : Path) :
    Except FileFault Location :=
  if path.text.isEmpty then
    .error .notFound
  else
    tree.follow (tree.start path) path.segments

/-- What a path leads to. -/
def find?
    (tree : FileTree)
    (path : Path) :
    Option FileNode :=
  match tree.locate path with
  | .error _ => none
  | .ok location => tree.nodeAt? location

/-- Whether a path leads to a file or directory. -/
def isPresent
    (tree : FileTree)
    (path : Path) :
    Bool :=
  (tree.find? path).isSome

/-- Whether a path leads to a directory. -/
def isDirectory
    (tree : FileTree)
    (path : Path) :
    Bool :=
  match tree.find? path with
  | some .directory => true
  | _ => false

/-- The bytes of the file that a path leads to. -/
def read
    (tree : FileTree)
    (path : Path) :
    Except FileFault (List UInt8) :=
  match tree.locate path with
  | .error fault => .error fault
  | .ok location =>
      match tree.nodeAt? location with
      | some (.file bytes) => .ok bytes
      | some .directory => .error .isDirectory
      | none => .error .notFound

/-- Why directories could not all be created, and the tree with those that were. -/
structure Interruption where
  fault : FileFault
  tree : FileTree
  deriving Repr, DecidableEq

/-- Follows segments from a location and creates the directories that are missing. A file on the
way counts as in place of a directory if it is the last one asked for, or if directories before it
were created; otherwise the path cannot even be followed. -/
def createAlong
    (tree : FileTree)
    (created : Bool)
    (location : Location) :
    List String →
    Except Interruption FileTree
  | [] => .ok tree
  | segment :: segments =>
      let next := step location segment
      match tree.nodeAt? next with
      | some .directory => tree.createAlong created next segments
      | some (.file _) =>
          if created || segments.isEmpty then
            .error ⟨.alreadyExists, tree⟩
          else
            .error ⟨.notDirectory, tree⟩
      | none => (tree.put next .directory).createAlong true next segments

/-- A tree in which a path leads to a directory, with every directory on the way. The empty path
asks for nothing. -/
def createDirectories
    (tree : FileTree)
    (path : Path) :
    Except Interruption FileTree :=
  if path.text.isEmpty then
    .ok tree
  else
    tree.createAlong false (tree.start path) path.segments

/-- A tree in which a file has some bytes. Its directory has to exist, and a directory is not
replaced by a file. -/
def write
    (tree : FileTree)
    (path : Path)
    (bytes : List UInt8) :
    Except FileFault FileTree :=
  match tree.locate path with
  | .error fault => .error fault
  | .ok location =>
      match tree.nodeAt? location with
      | some .directory => .error .isDirectory
      | _ => .ok (tree.put location (.file bytes))

/-- A tree without what stands at a location and below it. -/
def removeAt
    (tree : FileTree)
    (location : Location) :
    FileTree :=
  { tree with nodes := tree.nodes.filter fun (other, _) => !location.isPrefixOf other }

/-- A tree without the file or directory that a path leads to and everything below it. -/
def remove
    (tree : FileTree)
    (path : Path) :
    FileTree :=
  match tree.locate path with
  | .error _ => tree
  | .ok location => tree.removeAt location

/-- The names of everything below a location in order, directories with a slash at the end. -/
def listBelow
    (tree : FileTree)
    (location : Location) :
    List String :=
  let below := tree.nodes.filter fun (other, _) =>
    location.isPrefixOf other && location.length < other.length
  let names := below.map fun (other, node) =>
    let name := "/".intercalate (other.drop location.length)
    match node with
    | .file _ => name
    | .directory => name ++ "/"
  names.mergeSort (fun first second => first ≤ second)

end FileTree

end Phrasebook
