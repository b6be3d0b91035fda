import Phrasebook.Locale
import Phrasebook.Naming
import Phrasebook.Text.Separation
import Phrasebook.Transformer

namespace Phrasebook

/-!
# Source sets

The configuration of one generated type: its name, the locales it supports, the names of the files
with their messages, and the choices of naming, transformation and fallback.
-/

/-- How far a locale may deviate from the root locale. -/
structure FallbackPolicy where
  allowMissingFiles : Bool := true
  allowMissingKeys : Bool := true
  ignoreExtraKeys : Bool := false
  deriving Repr, DecidableEq

/-- The delimiter that stands for a locale in the format of file names. -/
def localeDelimiter :
    Text.Delimiter :=
  ⟨'{', ['l', 'o', 'c', 'a', 'l', 'e', '}']⟩

/-- The text that stands for a locale in the format of file names. -/
def localePlaceholder :
    String :=
  String.ofList localeDelimiter.toList

/-- The format of file names unless another one is configured. -/
def defaultFileNameFormat :
    String :=
  "messages" ++ localePlaceholder ++ ".properties"

/-- The configuration of one generated type. -/
structure SourceSet where
  targetName : String
  fileNameFormat : String := defaultFileNameFormat
  naming : Naming := .camelCase
  transformer : Option Transformer := none
  fallback : FallbackPolicy := {}
  locales : List Locale

namespace SourceSet

/-- The root locales of a source set. -/
def roots
    (sourceSet : SourceSet) :
    List Locale :=
  sourceSet.locales.filter Locale.isRoot

/-- The root locale, if there is exactly one. -/
def root?
    (sourceSet : SourceSet) :
    Option Locale :=
  match sourceSet.roots with
  | [root] => some root
  | _ => none

/-- The name of the file with the messages of a locale. -/
def fileName
    (sourceSet : SourceSet)
    (locale : Locale) :
    String :=
  String.ofList
    (Text.replaceAll localeDelimiter locale.fileSuffix.toList sourceSet.fileNameFormat.toList)

/-- A message variant after the transformer of a source set. -/
def transformed
    (sourceSet : SourceSet)
    (variant : String) :
    String :=
  Transformer.applyTo sourceSet.transformer variant

end SourceSet

end Phrasebook
