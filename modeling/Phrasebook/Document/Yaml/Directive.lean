import Phrasebook.Document.Yaml.Tag
import Phrasebook.Text.Decimal

namespace Phrasebook.Document.Yaml

/-!
# Directives

Before a document there may be lines that start with a percent sign. They name the version of the
language, or say what a tag handle stands for.
-/

/-- A line before a document. -/
inductive Directive where
  | version (major minor : Nat)
  | handle (handle : TagHandle)
  deriving Repr, DecidableEq

namespace Directive

/-- Reads a part of a version number, which has one to nine digits. -/
def readVersionPart
    (cursor : Cursor) :
    Option (Nat × Cursor) :=
  let digits := cursor.rest.takeWhile Char.isDigit
  if digits.isEmpty || 9 < digits.length then
    none
  else
    some (Text.decimalValue digits, cursor.drop digits.length)

/-- Reads a version number. -/
def readVersion
    (cursor : Cursor) :
    Option (Directive × Cursor) :=
  match readVersionPart cursor with
  | none => none
  | some (major, afterMajor) =>
      if afterMajor.rest.head? == some '.' then
        (readVersionPart afterMajor.next).map fun (minor, after) => (.version major minor, after)
      else
        none

/-- Reads a tag handle and what it stands for. -/
def readHandle
    (cursor : Cursor) :
    Option (Directive × Cursor) :=
  let handle := handleCharacters cursor.rest
  let afterHandle := cursor.drop handle.length
  if (handle == ['!'] || isNamedHandle handle) && startsBlank afterHandle.rest then
    match readTagText true (afterHandle.dropWhile isBlank) with
    | none => none
    | some (meaning, after) =>
        if startsApart after.rest then
          some (.handle ⟨handle, meaning⟩, after)
        else
          none
  else
    none

/-- Reads a directive with its line, from its percent sign on. -/
def read
    (cursor : Cursor) :
    Option (Directive × Cursor) :=
  let name := cursor.next.rest.takeWhile isNameCharacter
  let afterName := cursor.drop (name.length + 1)
  let content := afterName.dropWhile isBlank
  let found :=
    if !startsApart afterName.rest then
      none
    else if name == ['Y', 'A', 'M', 'L'] then
      readVersion content
    else if name == ['T', 'A', 'G'] then
      readHandle content
    else
      none
  match found with
  | none => none
  | some (directive, after) => after.afterComment?.map fun start => (directive, start)

end Directive

end Phrasebook.Document.Yaml
