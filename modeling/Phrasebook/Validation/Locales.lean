import Phrasebook.Diagnostic
import Phrasebook.LanguageTag
import Phrasebook.SourceSet

namespace Phrasebook.Validation

/-!
# Checks of the locales

Each locale has at least one plural form, a generated name of its own, and, unless it is the root
locale, a well-formed tag that is configured once. With several locales the format of file names
has to mention the locale.
-/

/-- The name of the generated enumeration of locales. -/
def localeTagType :
    String :=
  "LocaleTag"

/-- A problem of a locale. -/
def localeDiagnostic
    (kind : DiagnosticKind)
    (locale : Locale)
    (message : String) :
    Diagnostic where
  kind := kind
  message := message
  locale := some locale.tag

/-- The problem of a locale without plural forms. -/
def formDiagnostics
    (locale : Locale) :
    List Diagnostic :=
  if locale.pluralForms = 0 then
    [localeDiagnostic .validation locale "plural forms must be at least 1"]
  else
    []

/-- The problem of a locale whose generated name is also that of an earlier one; the locale just
before it comes first. -/
def variantDiagnostics
    (earlier : List Locale)
    (locale : Locale) :
    List Diagnostic :=
  match earlier.find? (·.variantName == locale.variantName) with
  | none => []
  | some other =>
      [localeDiagnostic .namingConflict locale
        ("locales `" ++ other.displayName ++ "` and `" ++ locale.displayName ++
          "` both map to `" ++ localeTagType ++ "::" ++ locale.variantName ++ "`")]

/-- The problem of a locale whose tag is malformed. -/
def tagDiagnostics
    (locale : Locale) :
    List Diagnostic :=
  if locale.isRoot || LanguageTag.isValid locale.tag.toList then
    []
  else
    [localeDiagnostic .validation locale
      ("`" ++ locale.tag ++ "` is not a valid language identifier")]

/-- The problem of a locale that is configured before. -/
def repetitionDiagnostics
    (earlier : List Locale)
    (locale : Locale) :
    List Diagnostic :=
  if !locale.isRoot && earlier.any (·.tag == locale.tag) then
    [localeDiagnostic .validation locale "locale is configured more than once"]
  else
    []

/-- The problems of some locales, after earlier ones of which the last comes first. -/
def localeDiagnosticsAfter
    (earlier : List Locale) :
    List Locale →
    List Diagnostic
  | [] => []
  | locale :: rest =>
      formDiagnostics locale ++ variantDiagnostics earlier locale ++ tagDiagnostics locale ++
        repetitionDiagnostics earlier locale ++
        localeDiagnosticsAfter (locale :: earlier) rest

/-- The problem of a format of file names that gives all locales the same file. -/
def formatDiagnostics
    (sourceSet : SourceSet) :
    List Diagnostic :=
  if 1 < sourceSet.locales.length &&
      !Text.occursIn localeDelimiter sourceSet.fileNameFormat.toList then
    [{
      kind := .validation
      message :=
        "resource filename format `" ++ sourceSet.fileNameFormat ++ "` has no `" ++
          localePlaceholder ++ "` placeholder"
    }]
  else
    []

/-- The problems of the locales of a source set. -/
def localeDiagnostics
    (sourceSet : SourceSet) :
    List Diagnostic :=
  localeDiagnosticsAfter [] sourceSet.locales ++ formatDiagnostics sourceSet

/-- The problem of a source set without exactly one root locale. -/
def rootCountDiagnostic
    (sourceSet : SourceSet) :
    Diagnostic where
  kind := .validation
  message :=
    "exactly one root locale (empty `locale`) must be configured, found " ++
      toString sourceSet.roots.length

end Phrasebook.Validation
