import Phrasebook.Identifier

namespace Phrasebook

/-!
# Locales

A supported locale has a language tag, a number of plural forms and the source of its plural rule.
The root locale has the empty tag: its messages stand in for those that other locales lack.
-/

/-- A supported locale. -/
structure Locale where
  tag : String
  pluralForms : Nat
  pluralSource : String
  deriving Repr, DecidableEq

namespace Locale

/-- Whether a locale is the root locale. -/
def isRoot
    (locale : Locale) :
    Bool :=
  locale.tag.isEmpty

theorem isRoot_congr
    {first second : Locale}
    (tag : first.tag = second.tag) :
    first.isRoot = second.isRoot := by
  rw [isRoot, isRoot, tag]

/-- The part of a file name that a locale contributes. -/
def fileSuffix
    (locale : Locale) :
    String :=
  if locale.isRoot then
    ""
  else
    "_" ++ locale.tag

theorem fileSuffix_congr
    {first second : Locale}
    (tag : first.tag = second.tag) :
    first.fileSuffix = second.fileSuffix := by
  rw [fileSuffix, fileSuffix, isRoot_congr tag, tag]

/-- The name of a locale among the generated locale tags. -/
def variantName
    (locale : Locale) :
    String :=
  if locale.isRoot then
    "Root"
  else
    String.ofList (Identifier.upperCamelCase locale.tag.toList)

/-- The part of the name of a generated plural function that tells its locale. -/
def functionSuffix
    (locale : Locale) :
    String :=
  if locale.isRoot then
    "root"
  else
    String.ofList (Identifier.snakeCase locale.variantName.toList)

/-- The name of a locale in messages. -/
def displayName
    (locale : Locale) :
    String :=
  if locale.isRoot then
    "root"
  else
    locale.tag

end Locale

end Phrasebook
