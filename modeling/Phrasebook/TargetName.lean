import Phrasebook.Identifier
import Phrasebook.Path
import Phrasebook.Text.Separation
import Phrasebook.Text.Whitespace

namespace Phrasebook

/-!
# Target names

The generated type is named by the modules it lies in and its own name, with a double colon
between neighbours. The modules are also the directories of the generated file.
-/

/-- The name of a generated type and the modules it lies in. -/
structure TargetName where
  modules : List String
  typeName : String
  deriving Repr, DecidableEq

/-- Why a text names no type. -/
inductive TargetFault where
  | empty
  | notIdentifier (text segment : String)
  deriving Repr, DecidableEq

namespace TargetFault

/-- The message of a fault. -/
def message :
    TargetFault →
    String
  | .empty => "target type name is empty"
  | .notIdentifier text segment =>
      "`" ++ text ++ "` is not a valid type path: segment `" ++ segment ++
        "` is not an identifier"

end TargetFault

namespace TargetName

/-- The double colon between the segments of a name. -/
def separator :
    Text.Delimiter :=
  ⟨':', [':']⟩

/-- The segments of a text between its double colons. -/
def segments
    (text : String) :
    List String :=
  (Text.cutAt separator text.toList).map String.ofList

/-- The name whose segments are given. -/
def ofSegments
    (segments : List String) :
    TargetName :=
  ⟨segments.dropLast, segments.getLast?.getD ""⟩

/-- The target that a text names. -/
def parse
    (text : String) :
    Except TargetFault TargetName :=
  if (Text.trim text.toList).isEmpty then
    .error .empty
  else
    match (segments text).find? (!Identifier.isLegal ·) with
    | some segment => .error (.notIdentifier text segment)
    | none => .ok (ofSegments (segments text))

/-- The text that names a target. -/
def display
    (target : TargetName) :
    String :=
  String.join (target.modules.map (· ++ "::")) ++ target.typeName

/-- The name of the file that holds the generated type. -/
def fileName
    (target : TargetName) :
    String :=
  String.ofList (Identifier.snakeCase target.typeName.toList) ++ ".rs"

/-- The path of the generated file below the output directory. -/
def relativePath
    (target : TargetName) :
    Path :=
  (target.modules ++ [target.fileName]).foldl
    (fun path name => path.join ⟨name⟩) ⟨""⟩

end TargetName

end Phrasebook
