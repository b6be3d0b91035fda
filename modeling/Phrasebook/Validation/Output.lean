import Phrasebook.FileTree
import Phrasebook.TargetName
import Phrasebook.Validation.Locales

namespace Phrasebook.Validation

/-!
# Checks of the target and the output

The generated type needs a name other than that of the enumeration of locales. Where the generated
file goes there must be no directory, and where directories go there must be no file.
-/

/-- The target of a source set, or the problem of its name. -/
def checkTarget
    (text : String) :
    Except Diagnostic TargetName :=
  match TargetName.parse text with
  | .error fault => .error { kind := .validation, message := fault.message }
  | .ok target =>
      if target.typeName == localeTagType then
        .error {
          kind := .namingConflict
          message :=
            "target type `" ++ target.display ++ "` clashes with the generated `" ++
              localeTagType ++ "` enum"
        }
      else
        .ok target

/-- The problem of a file or directory at a path, where there is one. -/
def pathDiagnostics
    (present : Bool)
    (path : Path)
    (message : String) :
    List Diagnostic :=
  if present then
    [{ kind := .validation, message := message, file := some path }]
  else
    []

/-- Whether a path leads to something other than a directory. -/
def isObstacle
    (tree : FileTree)
    (path : Path) :
    Bool :=
  tree.isPresent path && !tree.isDirectory path

/-- The directories between an output directory and a generated file, the innermost first. -/
def moduleDirectories
    (output artifact : Path) :
    List Path :=
  artifact.ancestors.takeWhile (!·.sameComponents output)

/-- The problems of the place where a generated file goes. -/
def outputDiagnostics
    (tree : FileTree)
    (output artifact : Path) :
    List Diagnostic :=
  pathDiagnostics (isObstacle tree output) output "output path is not a directory" ++
    pathDiagnostics (tree.isDirectory artifact) artifact
      "artifact path is an existing directory" ++
    (moduleDirectories output artifact).flatMap fun directory =>
      pathDiagnostics (isObstacle tree directory) directory
        "module directory is an existing file"

/-- The place of the generated file of a target. -/
def artifactPath
    (output : Path)
    (target : TargetName) :
    Path :=
  output.join target.relativePath

/-- The problems of the target name of a source set and of the place of its generated file. -/
def targetDiagnostics
    (tree : FileTree)
    (output : Path)
    (text : String) :
    List Diagnostic :=
  match checkTarget text with
  | .error diagnostic => [diagnostic]
  | .ok target => outputDiagnostics tree output (artifactPath output target)

end Phrasebook.Validation
