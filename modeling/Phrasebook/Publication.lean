import Phrasebook.Code.Render
import Phrasebook.Text.Encoding

namespace Phrasebook

/-!
# Publication

Generated code is written only if the source set is valid and the file does not hold the same code
already. The directories on the way are created. Nothing is kept from one run to the next: each
reads the resources again.
-/

/-- What became of a generated file. -/
inductive Generated where
  | written (path : Path)
  | unchanged (path : Path)
  deriving Repr, DecidableEq

namespace Generated

/-- The path of the generated file. -/
def path :
    Generated →
    Path
  | .written path => path
  | .unchanged path => path

end Generated

namespace Publication

/-- The bytes of the code of a bundle. -/
def artifactBytes
    (bundle : Bundle) :
    List UInt8 :=
  Text.encodeUtf8 (Code.render bundle).toList

/-- A tree in which the directory of a file exists, or why it could not be created and the tree
with the directories that were. -/
def createParent
    (tree : FileTree)
    (path : Path) :
    FileTree × Except Failure Unit :=
  match path.parent? with
  | none => (tree, .ok ())
  | some directory =>
      match tree.createDirectories directory with
      | .error interruption =>
          (interruption.tree, .error (.unwritable directory interruption.fault.message))
      | .ok created => (created, .ok ())

/-- Whether a path leads to a file with certain bytes. -/
def holds
    (tree : FileTree)
    (path : Path)
    (bytes : List UInt8) :
    Bool :=
  match tree.find? path with
  | some (.file existing) => existing == bytes
  | _ => false

/-- Gives a file its bytes, unless it has them. A failure leaves every file as it was, but the
directories that were created on the way stay. -/
def publish
    (tree : FileTree)
    (path : Path)
    (bytes : List UInt8) :
    FileTree × Except Failure Generated :=
  if holds tree path bytes then
    (tree, .ok (.unchanged path))
  else
    match createParent tree path with
    | (left, .error failure) => (left, .error failure)
    | (created, .ok ()) =>
        match created.write path bytes with
        | .error fault => (created, .error (.unwritable path fault.message))
        | .ok written => (written, .ok (.written path))

/-- The bundle of a source set, or why there is none. -/
def validate
    (sourceSet : SourceSet)
    (tree : FileTree)
    (input output : Path) :
    Except Failure Bundle :=
  match Validation.validate sourceSet tree input output with
  | .error diagnostics => .error (.invalid diagnostics)
  | .ok bundle => .ok bundle

/-- Validates a source set and publishes its code. -/
def generate
    (sourceSet : SourceSet)
    (tree : FileTree)
    (input output : Path) :
    FileTree × Except Failure Generated :=
  match validate sourceSet tree input output with
  | .error failure => (tree, .error failure)
  | .ok bundle => publish tree bundle.artifact (artifactBytes bundle)

end Publication

end Phrasebook
