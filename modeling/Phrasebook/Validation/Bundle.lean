import Phrasebook.Validation.Names
import Phrasebook.Validation.Output
import Phrasebook.Validation.Rules

namespace Phrasebook

/-!
# Valid bundles

A source set and its resources make a valid bundle if no check finds a problem. Without exactly one
root locale only the locales are checked, and without a usable root file nothing else is; otherwise
every check is made and all problems are listed in the order of the checks.
-/

/-- All that is needed to generate code from a source set without problems. -/
structure Bundle where
  target : TargetName
  artifact : Path
  locales : List Locale
  rules : List Plural.Rule
  catalog : Catalog
  accessors : List String
  deriving Repr, DecidableEq

namespace Validation

/-- The problems of a source set whose root file can be used, in the order of the checks. -/
def diagnostics
    (sourceSet : SourceSet)
    (tree : FileTree)
    (output : Path)
    (resources : ResourceSet)
    (catalog : Catalog) :
    List Diagnostic :=
  localeDiagnostics sourceSet ++
    resources.diagnostics ++
    sourceSet.locales.flatMap ruleDiagnostics ++
    catalog.diagnostics ++
    nameDiagnostics sourceSet.naming resources.root.path catalog ++
    targetDiagnostics tree output sourceSet.targetName

/-- The bundle of a source set without problems. -/
def bundleOf?
    (sourceSet : SourceSet)
    (output : Path)
    (catalog : Catalog) :
    Option Bundle :=
  match checkTarget sourceSet.targetName, rules? sourceSet.locales with
  | .ok target, some rules =>
      some {
        target := target
        artifact := artifactPath output target
        locales := sourceSet.locales
        rules := rules
        catalog := catalog
        accessors := accessorNames sourceSet.naming catalog
      }
  | _, _ => none

/-- The bundle of a source set with its messages below an input directory, for code to be written
below an output directory; or all the problems found. -/
def validate
    (sourceSet : SourceSet)
    (tree : FileTree)
    (input output : Path) :
    Except (List Diagnostic) Bundle :=
  match sourceSet.root? with
  | none => .error (rootCountDiagnostic sourceSet :: localeDiagnostics sourceSet)
  | some _ =>
      match ResourceSet.load sourceSet tree input with
      | .error diagnostics => .error diagnostics
      | .ok resources =>
          let catalog := Catalog.build sourceSet resources
          match diagnostics sourceSet tree output resources catalog,
              bundleOf? sourceSet output catalog with
          | [], some bundle => .ok bundle
          | found, _ => .error found

end Validation

end Phrasebook
