import Phrasebook.Code.Layout
import Phrasebook.Code.StringExpression
import Phrasebook.Validation.Bundle

namespace Phrasebook.Code

/-!
# Accessors

The accessor of a key is a method with a parameter for each argument, and one for the quantity if
the key is plural. Its body chooses a message by the locale, unless there is only one locale, and
within a plural message it chooses a variant by the plural rule of the locale that the message
comes from.
-/

/-- The name of the generated plural function of a locale. -/
def pluralFunction
    (locale : Locale) :
    String :=
  "plural_form_" ++ locale.functionSuffix

/-- The generated tag of a locale. -/
def localeTag
    (locale : Locale) :
    String :=
  Validation.localeTagType ++ "::" ++ locale.variantName

/-- A parameter of an accessor. -/
structure Parameter where
  name : String
  type : String
  deriving Repr, DecidableEq

/-- How a string is computed: always by the same expression, or by the one for the plural form of
the quantity, where the last one serves all further forms. -/
inductive Selection where
  | always (expression : String)
  | byForm (function : String) (initial : List String) (last : String)
  deriving Repr, DecidableEq

/-- How an accessor computes its string: alike for all locales, or by the tag of the locale. -/
inductive AccessorBody where
  | unconditional (selection : Selection)
  | byLocale (arms : List (String × Selection))
  deriving Repr, DecidableEq

/-- A method that computes the message of a key. -/
structure Accessor where
  key : String
  name : String
  parameters : List Parameter
  body : AccessorBody
  deriving Repr, DecidableEq

namespace Selection

/-- The selection of a message of a key, whose plural form the rule of a locale decides. -/
def ofMessage
    (entry : CatalogEntry)
    (message : Message)
    (locale : Locale) :
    Selection :=
  match message.variants.map (stringExpression entry.arguments) with
  | [] => .always "String::new()"
  | first :: rest =>
      match rest.getLast? with
      | none => .always first
      | some last =>
          if entry.arity.isPlural then
            .byForm (pluralFunction locale) (first :: rest.dropLast) last
          else
            .always first

/-- The lines for forms that are told apart by their numbers, the first of which is given. -/
def formLines
    (form : Nat) :
    List String →
    List CodeLine
  | [] => []
  | expression :: expressions =>
      .plain (toString form ++ " => " ++ expression ++ ",") :: formLines (form + 1) expressions

/-- The lines of a selection, with text before its first and after its last line. -/
def lines
    (before after : String) :
    Selection →
    List CodeLine
  | .always expression => [.plain (before ++ expression ++ after)]
  | .byForm function initial last =>
      block
        (before ++ "match " ++ function ++ "(" ++ Validation.quantityParameter ++ ") \x7b")
        (formLines 0 initial ++ [.plain ("_ => " ++ last ++ ",")])
        ("\x7d" ++ after)

end Selection

namespace AccessorBody

/-- The message of a key in a locale and the locale that it comes from. -/
def messageIn
    (root : Locale)
    (entry : CatalogEntry)
    (locale : Locale)
    (override : Option Message) :
    Message × Locale :=
  match override with
  | some message => (message, locale)
  | none => (entry.root, root)

/-- The selection of the message of a key in a locale. -/
def selectionIn
    (root : Locale)
    (entry : CatalogEntry)
    (locale : Locale)
    (override : Option Message) :
    Selection :=
  let (message, origin) := messageIn root entry locale override
  Selection.ofMessage entry message origin

/-- The body of the accessor of a key. -/
def ofEntry
    (locales : List Locale)
    (root : Locale)
    (entry : CatalogEntry) :
    AccessorBody :=
  match locales with
  | [only] => .unconditional (Selection.ofMessage entry entry.root only)
  | locales =>
      .byLocale (locales.zipIdx.map fun (locale, index) =>
        (localeTag locale, selectionIn root entry locale (entry.override? index)))

/-- The lines of a body. -/
def lines :
    AccessorBody →
    List CodeLine
  | .unconditional selection => selection.lines "" ""
  | .byLocale arms =>
      block "match self.locale_tag \x7b"
        (arms.flatMap fun (tag, selection) => selection.lines (tag ++ " => ") ",")
        "\x7d"

end AccessorBody

namespace Accessor

/-- The parameters of the accessor of a key, in order. -/
def parametersOf
    (entry : CatalogEntry) :
    List Parameter :=
  let quantity : List Parameter :=
    if entry.arity.isPlural then
      [⟨Validation.quantityParameter, "i64"⟩]
    else
      []
  quantity ++ entry.arguments.arguments.map fun argument =>
    ⟨argument.name, argument.type.code⟩

/-- The accessor of a key. -/
def ofEntry
    (locales : List Locale)
    (root : Locale)
    (entry : CatalogEntry)
    (name : String) :
    Accessor where
  key := entry.key
  name := name
  parameters := parametersOf entry
  body := AccessorBody.ofEntry locales root entry

/-- The parameters of an accessor as they are declared. -/
def signature
    (accessor : Accessor) :
    String :=
  ", ".intercalate ("&self" :: accessor.parameters.map fun parameter =>
    parameter.name ++ ": " ++ parameter.type)

/-- The lines of an accessor. -/
def lines
    (accessor : Accessor) :
    List CodeLine :=
  .plain ("/// Message " ++ Text.quotedString accessor.key ++ ".") ::
    block
      ("pub fn " ++ accessor.name ++ "(" ++ accessor.signature ++ ") -> String \x7b")
      accessor.body.lines
      "\x7d"

end Accessor

end Phrasebook.Code
