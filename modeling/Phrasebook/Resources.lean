import Phrasebook.Diagnostic
import Phrasebook.FileTree
import Phrasebook.Properties.Reader
import Phrasebook.SourceSet

namespace Phrasebook

/-!
# Resources

The properties files of a source set, one for each locale. Nothing can be done without the file of
the root locale, so its problems are reported alone. Another locale may lack its file, and a file
that cannot be used leaves its problems and no messages.
-/

/-- The declarations of one locale and the file they were read from. -/
structure ResourceFile where
  tag : String
  path : Path
  properties : List Properties.Property
  deriving Repr, DecidableEq

/-- What was found for a locale. -/
inductive LocaleResource where
  | loaded (file : ResourceFile)
  | missing (path : Path)
  | broken (path : Path)
  deriving Repr, DecidableEq

/-- What was found for the locales of a source set, and the problems of files other than the
root file. -/
structure ResourceSet where
  root : ResourceFile
  locales : List LocaleResource
  diagnostics : List Diagnostic
  deriving Repr, DecidableEq

namespace ResourceSet

/-- The problems of a file that cannot be used. -/
def fileDiagnostics
    (locale : Locale)
    (path : Path) :
    Properties.FileError →
    List Diagnostic
  | .notText =>
      [{
        kind := .load
        message := "cannot read resource file: " ++ Properties.notTextMessage
        locale := some locale.tag
        file := some path
      }]
  | .malformed errors =>
      errors.map fun error => {
        kind := .parse
        message := error.fault.message
        locale := some locale.tag
        file := some path
        line := some error.line
      }

/-- The declarations of an existing file, or its problems. -/
def readFile
    (locale : Locale)
    (path : Path)
    (bytes : List UInt8) :
    Except (List Diagnostic) ResourceFile :=
  match Properties.readBytes bytes with
  | .ok properties => .ok ⟨locale.tag, path, properties⟩
  | .error error => .error (fileDiagnostics locale path error)

/-- The problem of a root file that does not exist. -/
def rootNotFound
    (locale : Locale)
    (path : Path) :
    Diagnostic where
  kind := .load
  message := "root resource file not found"
  locale := some locale.tag
  file := some path

/-- The root file, or its problems. -/
def loadRoot
    (tree : FileTree)
    (locale : Locale)
    (path : Path) :
    Except (List Diagnostic) ResourceFile :=
  match tree.read path with
  | .error _ => .error [rootNotFound locale path]
  | .ok bytes => readFile locale path bytes

/-- What is found for a locale other than the root locale, and the problems of its file. -/
def loadOther
    (tree : FileTree)
    (locale : Locale)
    (path : Path) :
    LocaleResource × List Diagnostic :=
  match tree.read path with
  | .error _ => (.missing path, [])
  | .ok bytes =>
      match readFile locale path bytes with
      | .ok file => (.loaded file, [])
      | .error diagnostics => (.broken path, diagnostics)

/-- The path of the file with the messages of a locale. -/
def filePath
    (sourceSet : SourceSet)
    (input : Path)
    (locale : Locale) :
    Path :=
  input.join ⟨sourceSet.fileName locale⟩

/-- What is found for a locale and the problems of its file; the problems of the root file are an
error. -/
def loadLocale
    (sourceSet : SourceSet)
    (tree : FileTree)
    (input : Path)
    (locale : Locale) :
    Except (List Diagnostic) (LocaleResource × List Diagnostic) :=
  let path := filePath sourceSet input locale
  if locale.isRoot then
    (loadRoot tree locale path).map fun file => (.loaded file, [])
  else
    .ok (loadOther tree locale path)

/-- The file of the last root locale. -/
def rootFile? :
    List (Locale × LocaleResource) →
    Option ResourceFile
  | [] => none
  | (locale, resource) :: rest =>
      match rootFile? rest with
      | some file => some file
      | none =>
          match resource with
          | .loaded file =>
              if locale.isRoot then
                some file
              else
                none
          | _ => none

/-- The problem of a source set without a root locale. -/
def noRoot :
    Diagnostic where
  kind := .load
  message := "no root locale configured, cannot locate the root resource file"

/-- The resources of a source set below an input directory. -/
def load
    (sourceSet : SourceSet)
    (tree : FileTree)
    (input : Path) :
    Except (List Diagnostic) ResourceSet :=
  match sourceSet.locales.mapM (loadLocale sourceSet tree input) with
  | .error diagnostics => .error diagnostics
  | .ok found =>
      let resources := found.map Prod.fst
      match rootFile? (sourceSet.locales.zip resources) with
      | none => .error [noRoot]
      | some root => .ok ⟨root, resources, found.flatMap Prod.snd⟩

end ResourceSet

end Phrasebook
