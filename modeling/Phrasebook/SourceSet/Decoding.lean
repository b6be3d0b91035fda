import Phrasebook.Document.Basic
import Phrasebook.SourceSet

namespace Phrasebook

/-!
# Source sets in documents

The fields of a record are read in the order in which they stand, and the first problem decides.
Each field may be written with underscores or in camel case, but only once; fields that are not
known are ignored, and fields without a default have to be there. The conventions of the format
settle what else may be written for a choice, and whether values beyond the last field count.
-/

namespace Naming

/-- The strategy of a name in a document. -/
def ofName
    (name : String) :
    Except DecodeFault Naming :=
  match builtin? name with
  | some naming => .ok naming
  | none => .error (.unknownNaming name)

/-- The strategy in a document: its name, a table whose one key is the name, or a tag with it. -/
def decode
    (conventions : Document.Conventions)
    (document : Document) :
    Except DecodeFault Naming :=
  match document with
  | .text name => ofName name
  | .scalar scalar =>
      match scalar.tag with
      | some (.choice name) => do
          let naming ← ofName name
          if scalar.isNothing then
            return naming
          else
            document.unexpected "null"
      | _ => ofName scalar.content
  | .table [(name, value)] => do
      let naming ← ofName name
      if conventions.isNothing value then
        return naming
      else
        value.unexpected "unit"
  | .table _ => .error (.wrongValue "map" "map with a single key")
  | _ => document.unexpected "string or map"

end Naming

namespace Transformer

/-- The transformer of a name in a document. -/
def ofName
    (name : String) :
    Except DecodeFault Transformer :=
  match builtin? 0 name with
  | some transformer => .ok transformer
  | none => .error (.other (unknownMessage name))

/-- The transformer in a document, or none. -/
def decode
    (document : Document) :
    Except DecodeFault (Option Transformer) := do
  match ← document.asOptional with
  | none => return none
  | some document =>
      let name ← document.asText
      return some (← ofName name)

end Transformer

namespace FallbackPolicy

/-- The fields of a fallback policy that have been read. -/
structure Draft where
  allowMissingFiles : Option Bool := none
  allowMissingKeys : Option Bool := none
  ignoreExtraKeys : Option Bool := none

/-- The fields of a fallback policy. -/
def fields :
    List String :=
  ["allow_missing_files", "allow_missing_keys", "ignore_extra_keys"]

/-- Reads one field. -/
def readField
    (draft : Draft)
    (entry : String × Document) :
    Except DecodeFault Draft := do
  match entry.1 with
  | "allow_missing_files" =>
      let value ←
        Document.once "allow_missing_files" draft.allowMissingFiles entry.2.asBoolean
      return { draft with allowMissingFiles := value }
  | "allow_missing_keys" =>
      let value ← Document.once "allow_missing_keys" draft.allowMissingKeys entry.2.asBoolean
      return { draft with allowMissingKeys := value }
  | "ignore_extra_keys" =>
      let value ← Document.once "ignore_extra_keys" draft.ignoreExtraKeys entry.2.asBoolean
      return { draft with ignoreExtraKeys := value }
  | _ => return draft

/-- The fallback policy in a document. -/
def decode
    (conventions : Document.Conventions)
    (document : Document) :
    Except DecodeFault FallbackPolicy := do
  let found ← document.asRecord "FallbackPolicy" fields
  let draft ← found.entries.foldlM readField {}
  Document.refuseSurplus conventions fields found
  let defaults : FallbackPolicy := {}
  return {
    allowMissingFiles := draft.allowMissingFiles.getD defaults.allowMissingFiles
    allowMissingKeys := draft.allowMissingKeys.getD defaults.allowMissingKeys
    ignoreExtraKeys := draft.ignoreExtraKeys.getD defaults.ignoreExtraKeys
  }

end FallbackPolicy

namespace Locale

/-- The fields of a locale that have been read. -/
structure Draft where
  tag : Option String := none
  pluralForms : Option Nat := none
  pluralSource : Option String := none

/-- The fields of a locale. -/
def fields :
    List String :=
  ["locale", "plural_forms", "plural_function"]

/-- Reads one field. -/
def readField
    (draft : Draft)
    (entry : String × Document) :
    Except DecodeFault Draft := do
  match entry.1 with
  | "locale" =>
      let value ← Document.once "locale" draft.tag entry.2.asText
      return { draft with tag := value }
  | "plural_forms" | "pluralForms" =>
      let value ← Document.once "plural_forms" draft.pluralForms entry.2.asCount
      return { draft with pluralForms := value }
  | "plural_function" | "pluralFunction" =>
      let value ← Document.once "plural_function" draft.pluralSource entry.2.asText
      return { draft with pluralSource := value }
  | _ => return draft

/-- The locale in a document. -/
def decode
    (conventions : Document.Conventions)
    (document : Document) :
    Except DecodeFault Locale := do
  let found ← document.asRecord "LocaleSetting" fields
  let draft ← found.entries.foldlM readField {}
  let pluralForms ←
    Document.required "LocaleSetting" fields found "plural_forms" draft.pluralForms
  let pluralSource ←
    Document.required "LocaleSetting" fields found "plural_function" draft.pluralSource
  Document.refuseSurplus conventions fields found
  return {
    tag := draft.tag.getD ""
    pluralForms := pluralForms
    pluralSource := pluralSource
  }

end Locale

namespace SourceSet

/-- The fields of a source set that have been read. -/
structure Draft where
  targetName : Option String := none
  fileNameFormat : Option String := none
  naming : Option Naming := none
  transformer : Option (Option Transformer) := none
  fallback : Option FallbackPolicy := none
  locales : Option (List Locale) := none

/-- The fields of a source set. -/
def fields :
    List String :=
  [
    "message_source_class_name", "resource_filename_format", "naming", "content_transformer",
    "fallback", "locales"
  ]

/-- The locales in a document. -/
def decodeLocales
    (conventions : Document.Conventions)
    (document : Document) :
    Except DecodeFault (List Locale) := do
  let items ← document.asList
  items.mapM (Locale.decode conventions)

/-- Reads one field. -/
def readField
    (conventions : Document.Conventions)
    (draft : Draft)
    (entry : String × Document) :
    Except DecodeFault Draft := do
  match entry.1 with
  | "message_source_class_name" | "messageSourceClassName" =>
      let value ← Document.once "message_source_class_name" draft.targetName entry.2.asText
      return { draft with targetName := value }
  | "resource_filename_format" | "resourceFilenameFormat" =>
      let value ← Document.once "resource_filename_format" draft.fileNameFormat entry.2.asText
      return { draft with fileNameFormat := value }
  | "naming" =>
      let value ← Document.once "naming" draft.naming (Naming.decode conventions entry.2)
      return { draft with naming := value }
  | "content_transformer" | "contentTransformer" =>
      let value ←
        Document.once "content_transformer" draft.transformer (Transformer.decode entry.2)
      return { draft with transformer := value }
  | "fallback" =>
      let value ←
        Document.once "fallback" draft.fallback (FallbackPolicy.decode conventions entry.2)
      return { draft with fallback := value }
  | "locales" =>
      let value ← Document.once "locales" draft.locales (decodeLocales conventions entry.2)
      return { draft with locales := value }
  | _ => return draft

/-- The source set in a document. -/
def decode
    (conventions : Document.Conventions)
    (document : Document) :
    Except DecodeFault SourceSet := do
  let found ← document.asRecord "SourceSetConfig" fields
  let draft ← found.entries.foldlM (readField conventions) {}
  let targetName ←
    Document.required "SourceSetConfig" fields found "message_source_class_name" draft.targetName
  let locales ← Document.required "SourceSetConfig" fields found "locales" draft.locales
  Document.refuseSurplus conventions fields found
  return {
    targetName := targetName
    fileNameFormat := draft.fileNameFormat.getD defaultFileNameFormat
    naming := draft.naming.getD .camelCase
    transformer := draft.transformer.join
    fallback := draft.fallback.getD {}
    locales := locales
  }

end SourceSet

end Phrasebook
