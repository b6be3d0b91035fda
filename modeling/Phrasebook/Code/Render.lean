import Phrasebook.Code.Accessor

namespace Phrasebook.Code

/-!
# Generated modules

The code of a bundle: the enumeration of its locales, the generated type with its members and
accessors, and the plural function of each locale. It depends on the bundle alone.
-/

/-- The lines that open every generated module. -/
def headerLines
    (target : TargetName) :
    List CodeLine :=
  [
    .plain "// @generated by staticbundle. Do not edit by hand.",
    .plain ("// Message source `" ++ target.display ++ "`."),
    .blank
  ]

/-- The lines for a locale in the enumeration of locales. -/
def variantLines
    (locale : Locale) :
    List CodeLine :=
  if locale.isRoot then
    [.plain "#[default]", .plain (locale.variantName ++ ",")]
  else
    [.plain (locale.variantName ++ ",")]

/-- The lines of the enumeration of locales. -/
def localeTypeLines
    (locales : List Locale)
    (typeName : String) :
    List CodeLine :=
  [
    .plain ("/// Locales supported by [`" ++ typeName ++ "`]."),
    .plain "#[derive(Debug, Clone, Copy, PartialEq, Eq, Hash, PartialOrd, Ord, Default)]"
  ] ++
    block ("pub enum " ++ Validation.localeTagType ++ " \x7b")
      (locales.flatMap variantLines)
      "\x7d"

/-- The line that lists all locales. -/
def allLocalesLine
    (locales : List Locale) :
    CodeLine :=
  .plain ("pub const ALL: [" ++ Validation.localeTagType ++ "; " ++ toString locales.length ++
    "] = [" ++ ", ".intercalate (locales.map localeTag) ++ "];")

/-- The lines of the members of the enumeration of locales. -/
def localeMemberLines
    (locales : List Locale) :
    List CodeLine :=
  block ("impl " ++ Validation.localeTagType ++ " \x7b")
    ([
      allLocalesLine locales,
      .blank,
      .plain "/// The configured tag; empty for the root locale."
    ] ++
      block "pub fn as_str(&self) -> &'static str \x7b"
        (block "match self \x7b"
          (locales.map fun locale =>
            .plain (localeTag locale ++ " => " ++ Text.quotedString locale.tag ++ ","))
          "\x7d")
        "\x7d")
    "\x7d"

/-- The lines of the generated type. -/
def typeLines
    (typeName : String) :
    List CodeLine :=
  [
    .plain ("/// Localized messages, see [`" ++ Validation.localeTagType ++ "`]."),
    .plain "#[derive(Debug, Clone, Copy, PartialEq, Eq, Hash, Default)]"
  ] ++
    block ("pub struct " ++ typeName ++ " \x7b")
      [.plain ("locale_tag: " ++ Validation.localeTagType ++ ",")]
      "\x7d"

/-- The lines that compute the plural form in the current locale. -/
def pluralFormLines :
    List Locale →
    List CodeLine
  | [only] => [.plain (pluralFunction only ++ "(n)")]
  | locales =>
      block "match self.locale_tag \x7b"
        (locales.map fun locale =>
          .plain (localeTag locale ++ " => " ++ pluralFunction locale ++ "(n),"))
        "\x7d"

/-- The lines of the members that every generated type has. -/
def memberLines
    (locales : List Locale) :
    List CodeLine :=
  block ("pub const fn new(locale_tag: " ++ Validation.localeTagType ++ ") -> Self \x7b")
    [.plain "Self \x7b locale_tag \x7d"] "\x7d" ++
  .blank ::
  block ("pub const fn locale_tag(&self) -> " ++ Validation.localeTagType ++ " \x7b")
    [.plain "self.locale_tag"] "\x7d" ++
  .blank ::
  block ("pub const fn with_locale_tag(&self, locale_tag: " ++ Validation.localeTagType ++
      ") -> Self \x7b")
    [.plain "Self \x7b locale_tag \x7d"] "\x7d" ++
  .blank ::
  .plain "/// Plural form index of `n` in the current locale." ::
  block "pub fn plural_form(&self, n: i64) -> i64 \x7b" (pluralFormLines locales) "\x7d"

/-- The lines of the plural function of a locale. -/
def pluralFunctionLines
    (locale : Locale)
    (rule : Plural.Rule) :
    List CodeLine :=
  let parameter :=
    if rule.mentionsQuantity then
      "n"
    else
      "_n"
  .blank ::
    block ("fn " ++ pluralFunction locale ++ "(" ++ parameter ++ ": i64) -> i64 \x7b")
      [.plain rule.code] "\x7d"

/-- The accessors of a bundle in the order of its keys. -/
def accessorsOf
    (bundle : Bundle) :
    List Accessor :=
  match bundle.locales[bundle.catalog.rootIndex]? with
  | none => []
  | some root =>
      (bundle.catalog.entries.zip bundle.accessors).map fun (entry, name) =>
        Accessor.ofEntry bundle.locales root entry name

/-- The lines of the generated type's implementation. -/
def implementationLines
    (bundle : Bundle) :
    List CodeLine :=
  .plain "#[allow(non_snake_case)]" ::
    block ("impl " ++ bundle.target.typeName ++ " \x7b")
      (memberLines bundle.locales ++
        (accessorsOf bundle).flatMap fun accessor => .blank :: accessor.lines)
      "\x7d"

/-- The lines of the module of a bundle. -/
def moduleLines
    (bundle : Bundle) :
    List CodeLine :=
  headerLines bundle.target ++
    localeTypeLines bundle.locales bundle.target.typeName ++
    .blank :: localeMemberLines bundle.locales ++
    .blank :: typeLines bundle.target.typeName ++
    .blank :: implementationLines bundle ++
    (bundle.locales.zip bundle.rules).flatMap fun (locale, rule) =>
      pluralFunctionLines locale rule

/-- The code of a bundle. -/
def render
    (bundle : Bundle) :
    String :=
  layout (moduleLines bundle)

end Phrasebook.Code
