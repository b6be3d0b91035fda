namespace Phrasebook

/-!
# Paths

A path is kept as it was written. Its segments stand between slashes; an empty segment and a
single dot lead nowhere, except that a dot at the very start of a path is one of its components.
-/

/-- The path of a file or directory, relative unless it starts with a slash. -/
structure Path where
  text : String
  deriving Repr, DecidableEq

namespace Path

/-- The segments of a path between its slashes; there is always at least one. -/
def segments
    (path : Path) :
    List String :=
  (path.text.toList.splitOnP (· == '/')).map String.ofList

/-- Whether a path starts at the root of all files. -/
def isAbsolute
    (path : Path) :
    Bool :=
  path.text.toList.head? == some '/'

/-- Whether a segment leads nowhere. -/
def isIdle
    (segment : String) :
    Bool :=
  segment == "" || segment == "."

/-- The components of a path, by which paths are compared. -/
def components
    (path : Path) :
    List String :=
  match path.segments with
  | [] => []
  | first :: rest =>
      let further := rest.filter (!isIdle ·)
      if path.isAbsolute then
        "/" :: further
      else if first == "" then
        further
      else
        first :: further

/-- Whether two paths have the same components. -/
def sameComponents
    (first second : Path) :
    Bool :=
  first.components == second.components

/-- The path of something below a directory; an absolute path stays itself. -/
def join
    (directory : Path)
    (path : Path) :
    Path :=
  if path.isAbsolute || directory.text.isEmpty then
    path
  else if directory.text.toList.getLast? == some '/' then
    ⟨directory.text ++ path.text⟩
  else
    ⟨directory.text ++ "/" ++ path.text⟩

/-- Segments in reverse order without those at their front that lead nowhere; the segment with
which a path starts is kept. -/
def dropIdle :
    List String →
    List String
  | [] => []
  | [first] => [first]
  | last :: previous :: rest =>
      if isIdle last then
        dropIdle (previous :: rest)
      else
        last :: previous :: rest

/-- The segments of a path in reverse order, without those at its end that lead nowhere. -/
def fromEnd
    (path : Path) :
    List String :=
  dropIdle path.segments.reverse

/-- The path of segments in reverse order. -/
def ofReversed
    (segments : List String) :
    Path :=
  if segments == [""] then
    ⟨"/"⟩
  else
    ⟨"/".intercalate segments.reverse⟩

/-- The directories that a path with the given segments in reverse order lies in, the innermost
first. A relative path ends with the empty path, an absolute one with the root. -/
def ancestorsFrom :
    List String →
    List Path
  | [] => []
  | [first] =>
      if first == "" then
        []
      else
        [⟨""⟩]
  | _ :: previous :: rest =>
      if isIdle previous && !rest.isEmpty then
        ancestorsFrom (previous :: rest)
      else
        ofReversed (previous :: rest) :: ancestorsFrom (previous :: rest)

/-- The directories that a path lies in, the innermost first. -/
def ancestors
    (path : Path) :
    List Path :=
  ancestorsFrom path.fromEnd

/-- The path of the directory that a path lies in; the root and the empty path have none. -/
def parent?
    (path : Path) :
    Option Path :=
  path.ancestors.head?

/-- The name of the file that a path leads to. -/
def fileName?
    (path : Path) :
    Option String :=
  match path.fromEnd with
  | [] => none
  | last :: _ =>
      if isIdle last || last == ".." then
        none
      else
        some last

/-- The part of a file name after its last dot, unless the dot leads the name. -/
def extension?
    (path : Path) :
    Option String :=
  match path.fileName? with
  | none => none
  | some name =>
      let reversed := name.toList.reverse
      let ending := reversed.takeWhile (· != '.')
      let stem := (reversed.dropWhile (· != '.')).drop 1
      if stem.isEmpty then
        none
      else
        some (String.ofList ending.reverse)

end Path

end Phrasebook
