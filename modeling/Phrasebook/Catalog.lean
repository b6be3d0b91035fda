import Phrasebook.Placeholder.ArgumentTable
import Phrasebook.Placeholder.Scanner
import Phrasebook.Resources

namespace Phrasebook

/-!
# Message catalogs

The root file decides which keys there are, in which order, how many variants each has and which
arguments it takes. Another locale overrides the root message of a key if it has the right number
of variants and its placeholders agree with the arguments. Building a catalog never fails:
problems are listed, first those of the root keys in order, then those of each locale in order.
-/

/-- Whether a key has one variant or one for each plural form. -/
inductive Arity where
  | singular
  | plural (variants : Nat)
  deriving Repr, DecidableEq

namespace Arity

/-- The number of variants that a locale has to give. -/
def expectedVariants
    (pluralForms : Nat) :
    Arity →
    Nat
  | .singular => 1
  | .plural _ => pluralForms

/-- Whether a key has a variant for each plural form. -/
def isPlural :
    Arity →
    Bool
  | .singular => false
  | .plural _ => true

end Arity

/-- The variants of a message, each a list of pieces. -/
structure Message where
  variants : List (List Placeholder.Piece)
  deriving Repr, DecidableEq

/-- What the root file says about a key. -/
structure RootEntry where
  key : String
  line : Nat
  arity : Arity
  arguments : Placeholder.ArgumentTable
  root : Message
  deriving Repr, DecidableEq

/-- A key with its root message and, for each locale, the message that overrides it. -/
structure CatalogEntry extends RootEntry where
  overrides : List (Option Message)
  deriving Repr, DecidableEq

namespace CatalogEntry

/-- The message that overrides the root message in a locale. -/
def override?
    (entry : CatalogEntry)
    (localeIndex : Nat) :
    Option Message :=
  (entry.overrides[localeIndex]?).join

end CatalogEntry

/-- The messages of a source set, the position of its root locale, and the problems found. -/
structure Catalog where
  rootIndex : Nat
  entries : List CatalogEntry
  diagnostics : List Diagnostic
  deriving Repr, DecidableEq

/-- Why a variant of a message cannot be used. -/
inductive VariantFault where
  | unknownType (unknown : Placeholder.UnknownType)
  | argument (fault : Placeholder.ArgumentFault)
  deriving Repr, DecidableEq

namespace VariantFault

/-- The message of a fault. -/
def message :
    VariantFault →
    String
  | .unknownType unknown => unknown.message
  | .argument fault => fault.message

end VariantFault

namespace Catalog

/-- The problem of a key in the file of a locale. -/
def keyDiagnostic
    (locale : Locale)
    (file : ResourceFile)
    (key : String)
    (line : Option Nat)
    (message : String) :
    Diagnostic where
  kind := .validation
  message := message
  locale := some locale.tag
  key := some key
  file := some file.path
  line := line

/-- A table with every indexed placeholder of some tokens declared, as far as they fit. -/
def declareIndexed
    (table : Placeholder.ArgumentTable) :
    List Placeholder.Token →
    Placeholder.ArgumentTable
  | [] => table
  | .text _ :: tokens => declareIndexed table tokens
  | .argument reference :: tokens =>
      if reference.index.isSome then
        declareIndexed (table.declare reference).1 tokens
      else
        declareIndexed table tokens

/-- A table with every indexed placeholder of some texts declared, as far as they fit. Texts that
cannot be scanned declare nothing. -/
def declaredBy
    (texts : List String) :
    Placeholder.ArgumentTable :=
  texts.foldl
    (fun table text =>
      match Placeholder.scan text with
      | .error _ => table
      | .ok tokens => declareIndexed table tokens)
    {}

/-- The pieces of some tokens, whose placeholders are declared in a table. -/
def bindTokens
    (table : Placeholder.ArgumentTable) :
    List Placeholder.Token →
    Placeholder.ArgumentTable × Except VariantFault (List Placeholder.Piece)
  | [] => (table, .ok [])
  | .text text :: tokens =>
      let (final, pieces) := bindTokens table tokens
      (final, pieces.map (.text text :: ·))
  | .argument reference :: tokens =>
      match table.declare reference with
      | (changed, .error fault) => (changed, .error (.argument fault))
      | (changed, .ok index) =>
          let (final, pieces) := bindTokens changed tokens
          (final, pieces.map (.argument index :: ·))

/-- The pieces of a root variant, whose placeholders are declared in a table. -/
def bindVariant
    (table : Placeholder.ArgumentTable)
    (text : String) :
    Placeholder.ArgumentTable × Except VariantFault (List Placeholder.Piece) :=
  match Placeholder.scan text with
  | .error unknown => (table, .error (.unknownType unknown))
  | .ok tokens => bindTokens table tokens

/-- The pieces of root variants one after another. -/
def bindVariants
    (table : Placeholder.ArgumentTable) :
    List String →
    Placeholder.ArgumentTable × List (Except VariantFault (List Placeholder.Piece))
  | [] => (table, [])
  | text :: texts =>
      let (changed, pieces) := bindVariant table text
      let (final, further) := bindVariants changed texts
      (final, pieces :: further)

/-- The piece of a token, whose placeholder has to agree with a table. -/
def resolveToken
    (table : Placeholder.ArgumentTable) :
    Placeholder.Token →
    Except VariantFault Placeholder.Piece
  | .text text => .ok (.text text)
  | .argument reference =>
      match table.resolve reference with
      | .error fault => .error (.argument fault)
      | .ok index => .ok (.argument index)

/-- The pieces of a variant whose placeholders have to agree with a table. -/
def resolveVariant
    (table : Placeholder.ArgumentTable)
    (text : String) :
    Except VariantFault (List Placeholder.Piece) :=
  match Placeholder.scan text with
  | .error unknown => .error (.unknownType unknown)
  | .ok tokens => tokens.mapM (resolveToken table)

/-- The arity of a root declaration. -/
def arityOf
    (property : Properties.Property) :
    Arity :=
  if property.isPlural then
    .plural property.variants.length
  else
    .singular

/-- The message for a root key whose variants are not as many as the plural forms. -/
def arityMessages
    (locale : Locale) :
    Arity →
    List String
  | .singular => []
  | .plural found =>
      if found = locale.pluralForms then
        []
      else
        ["plural key has " ++ toString found ++ " variant(s) but the root locale has " ++
          toString locale.pluralForms ++ " plural form(s)"]

/-- The fault of an outcome, if there is one. -/
def fault?
    (outcome : Except VariantFault (List Placeholder.Piece)) :
    Option VariantFault :=
  match outcome with
  | .ok _ => none
  | .error fault => some fault

/-- The pieces of a root variant; a variant at fault is a single piece of text. -/
def rootPieces
    (text : String) :
    Except VariantFault (List Placeholder.Piece) →
    List Placeholder.Piece
  | .ok pieces => pieces
  | .error _ => [.text text]

/-- The message for arguments that are not complete. -/
def completenessMessages
    (table : Placeholder.ArgumentTable) :
    List String :=
  match table.checkComplete with
  | .ok _ => []
  | .error fault => [fault.message]

/-- What a root declaration says about its key, and the messages for its problems. -/
def rootEntry
    (sourceSet : SourceSet)
    (locale : Locale)
    (property : Properties.Property) :
    RootEntry × List String :=
  let arity := arityOf property
  let texts := property.variants.map sourceSet.transformed
  let (table, outcomes) := bindVariants (declaredBy texts) texts
  let entry : RootEntry := {
    key := property.key
    line := property.line
    arity := arity
    arguments := table
    root := ⟨(texts.zip outcomes).map fun (text, outcome) => rootPieces text outcome⟩
  }
  let messages :=
    arityMessages locale arity ++
      (outcomes.filterMap fault?).map VariantFault.message ++
      completenessMessages table
  (entry, messages)

/-- The problems of a root declaration. -/
def rootDiagnostics
    (sourceSet : SourceSet)
    (locale : Locale)
    (file : ResourceFile)
    (property : Properties.Property) :
    List Diagnostic :=
  (rootEntry sourceSet locale property).2.map
    (keyDiagnostic locale file property.key (some property.line))

/-- The variants of a message, unless one of them is at fault. -/
def messageOf? :
    List (Except VariantFault (List Placeholder.Piece)) →
    Option (List (List Placeholder.Piece))
  | [] => some []
  | .error _ :: _ => none
  | .ok pieces :: outcomes => (messageOf? outcomes).map (pieces :: ·)

/-- The message with which the declaration of a locale overrides that of a root key, and the
messages for its problems. -/
def overrideOf
    (sourceSet : SourceSet)
    (locale : Locale)
    (entry : RootEntry)
    (property : Properties.Property) :
    Option Message × List String :=
  let expected := entry.arity.expectedVariants locale.pluralForms
  if property.variants.length = expected then
    let outcomes := property.variants.map fun variant =>
      resolveVariant entry.arguments (sourceSet.transformed variant)
    ((messageOf? outcomes).map Message.mk,
      (outcomes.filterMap fault?).map VariantFault.message)
  else
    (none,
      ["expected " ++ toString expected ++ " variant(s), found " ++
        toString property.variants.length])

/-- The problem of a key that the file of a locale leaves out. -/
def missingKeyDiagnostics
    (sourceSet : SourceSet)
    (locale : Locale)
    (file : ResourceFile)
    (key : String) :
    List Diagnostic :=
  if sourceSet.fallback.allowMissingKeys then
    []
  else
    [keyDiagnostic locale file key none "key is missing and missing keys are not allowed"]

/-- The problems of keys that the root file does not have. -/
def extraDiagnostics
    (sourceSet : SourceSet)
    (locale : Locale)
    (file : ResourceFile)
    (rootKeys : List String) :
    List Diagnostic :=
  if sourceSet.fallback.ignoreExtraKeys then
    []
  else
    (file.properties.filter (!rootKeys.contains ·.key)).map fun property =>
      keyDiagnostic locale file property.key (some property.line)
        "extraneous key not declared by the root locale"

/-- The problem of a file that has to exist. -/
def missingFile
    (locale : Locale)
    (path : Path) :
    Diagnostic where
  kind := .load
  message := "resource file not found and missing files are not allowed"
  locale := some locale.tag
  file := some path

/-- The position of the first root locale. -/
def rootIndexOf
    (sourceSet : SourceSet) :
    Nat :=
  (sourceSet.locales.findIdx? Locale.isRoot).getD 0

/-- An entry after the file of the locale at a position, and the problems pending after it. -/
def mergeEntry
    (sourceSet : SourceSet)
    (index : Nat)
    (locale : Locale)
    (file : ResourceFile)
    (entry : CatalogEntry)
    (pending : List Diagnostic) :
    CatalogEntry × List Diagnostic :=
  match Properties.get? file.properties entry.key with
  | none => (entry, pending ++ missingKeyDiagnostics sourceSet locale file entry.key)
  | some property =>
      let (override, messages) := overrideOf sourceSet locale entry.toRootEntry property
      let reported :=
        pending ++ messages.map (keyDiagnostic locale file entry.key (some property.line))
      match override with
      | none => (entry, reported)
      | some message =>
          ({ entry with overrides := entry.overrides.set index (some message) }, reported)

/-- Entries after the file of the locale at a position, and the problems pending after them. -/
def mergeEntries
    (sourceSet : SourceSet)
    (index : Nat)
    (locale : Locale)
    (file : ResourceFile)
    (pending : List Diagnostic) :
    List CatalogEntry →
    List CatalogEntry × List Diagnostic
  | [] => ([], pending)
  | entry :: entries =>
      let (merged, reported) := mergeEntry sourceSet index locale file entry pending
      let (others, final) := mergeEntries sourceSet index locale file reported entries
      (merged :: others, final)

/-- A catalog after what was loaded for the locale at a position. -/
def mergeLocale
    (sourceSet : SourceSet)
    (rootKeys : List String)
    (index : Nat)
    (locale : Locale)
    (resource : LocaleResource)
    (catalog : Catalog) :
    Catalog :=
  if locale.isRoot then
    catalog
  else
    match resource with
    | .loaded file =>
        let (entries, reported) :=
          mergeEntries sourceSet index locale file catalog.diagnostics catalog.entries
        { catalog with
          entries := entries
          diagnostics := reported ++ extraDiagnostics sourceSet locale file rootKeys }
    | .missing path =>
        if sourceSet.fallback.allowMissingFiles then
          catalog
        else
          { catalog with diagnostics := catalog.diagnostics ++ [missingFile locale path] }
    | .broken _ => catalog

/-- A catalog after what was loaded for the locales from a position on, one after another. -/
def mergeLocales
    (sourceSet : SourceSet)
    (rootKeys : List String) :
    Nat →
    List (Locale × LocaleResource) →
    Catalog →
    Catalog
  | _, [], catalog => catalog
  | index, (locale, resource) :: locales, catalog =>
      mergeLocales sourceSet rootKeys (index + 1) locales
        (mergeLocale sourceSet rootKeys index locale resource catalog)

/-- The catalog of the root file alone, with room for an override in each locale. -/
def ofRoot
    (sourceSet : SourceSet)
    (root : Locale)
    (file : ResourceFile) :
    Catalog where
  rootIndex := rootIndexOf sourceSet
  entries := file.properties.map fun property => {
    toRootEntry := (rootEntry sourceSet root property).1
    overrides := List.replicate sourceSet.locales.length none
  }
  diagnostics := file.properties.flatMap (rootDiagnostics sourceSet root file)

/-- The catalog of a source set with exactly one root locale: the root file decides about the
entries, and what was loaded for each locale is merged into them. -/
def build
    (sourceSet : SourceSet)
    (resources : ResourceSet) :
    Catalog :=
  match sourceSet.locales[rootIndexOf sourceSet]? with
  | none => ⟨0, [], []⟩
  | some root =>
      mergeLocales sourceSet (resources.root.properties.map Properties.Property.key) 0
        (sourceSet.locales.zip resources.locales) (ofRoot sourceSet root resources.root)

end Catalog

end Phrasebook
