import Phrasebook.Catalog

namespace Phrasebook.Validation

/-!
# Checks of generated names

The accessor of each key needs a legal name that no member of the generated type and no earlier
accessor has. The arguments of a key become parameters, which need legal names too and must not
take the name of the quantity.
-/

/-- The name of the quantity among the parameters of an accessor. -/
def quantityParameter :
    String :=
  "amount"

/-- The members that every generated type has. -/
def reservedMembers :
    List String :=
  ["new", "locale_tag", "with_locale_tag", "plural_form"]

/-- A problem of the declaration of a root key. -/
def entryDiagnostic
    (kind : DiagnosticKind)
    (rootFile : Path)
    (entry : CatalogEntry)
    (message : String) :
    Diagnostic where
  kind := kind
  message := message
  locale := some ""
  key := some entry.key
  file := some rootFile
  line := some entry.line

/-- The accessor names that have been given out, and the key that each was given to. -/
abbrev GivenNames :=
  List (String × String)

/-- The problem of the accessor name of a key, after the names given to earlier keys. -/
def accessorDiagnostics
    (naming : Naming)
    (rootFile : Path)
    (given : GivenNames)
    (entry : CatalogEntry) :
    List Diagnostic :=
  let name := naming.accessorName entry.key
  if !Identifier.isLegal name then
    [entryDiagnostic .validation rootFile entry
      ("naming strategy " ++ naming.displayName ++ " maps the key to `" ++ name ++
        "`, which is not a legal identifier")]
  else if reservedMembers.contains name then
    [entryDiagnostic .namingConflict rootFile entry
      ("accessor `" ++ name ++ "` would shadow a generated member")]
  else
    match given.lookup name with
    | some first =>
        [entryDiagnostic .namingConflict rootFile entry
          ("keys `" ++ first ++ "` and `" ++ entry.key ++ "` both map to accessor `" ++ name ++
            "`")]
    | none => []

/-- The problem of the parameter of an argument. -/
def argumentDiagnostics
    (rootFile : Path)
    (entry : CatalogEntry)
    (argument : Placeholder.Argument) :
    List Diagnostic :=
  if !Identifier.isLegal argument.name then
    [entryDiagnostic .validation rootFile entry
      ("argument name `" ++ argument.name ++ "` is not a legal identifier")]
  else if entry.arity.isPlural && argument.name == quantityParameter then
    [entryDiagnostic .namingConflict rootFile entry
      ("argument `" ++ argument.name ++ "` clashes with the plural quantity parameter")]
  else
    []

/-- The names given out once a key has been dealt with: a name with a problem is not given. -/
def givenWith
    (naming : Naming)
    (given : GivenNames)
    (entry : CatalogEntry) :
    GivenNames :=
  let name := naming.accessorName entry.key
  if !Identifier.isLegal name || reservedMembers.contains name ||
      (given.lookup name).isSome then
    given
  else
    (name, entry.key) :: given

/-- The problems of the names of some keys, after the names given to earlier keys. -/
def nameDiagnosticsAfter
    (naming : Naming)
    (rootFile : Path)
    (given : GivenNames) :
    List CatalogEntry →
    List Diagnostic
  | [] => []
  | entry :: entries =>
      accessorDiagnostics naming rootFile given entry ++
        entry.arguments.arguments.flatMap (argumentDiagnostics rootFile entry) ++
        nameDiagnosticsAfter naming rootFile (givenWith naming given entry) entries

/-- The problems of the generated names of a catalog. -/
def nameDiagnostics
    (naming : Naming)
    (rootFile : Path)
    (catalog : Catalog) :
    List Diagnostic :=
  nameDiagnosticsAfter naming rootFile [] catalog.entries

/-- The accessor name of each key. -/
def accessorNames
    (naming : Naming)
    (catalog : Catalog) :
    List String :=
  catalog.entries.map fun entry => naming.accessorName entry.key

end Phrasebook.Validation
