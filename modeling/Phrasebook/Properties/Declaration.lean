import Phrasebook.Properties.LogicalLine

namespace Phrasebook.Properties

/-!
# Keys and values as written

The key of a logical line ends at the first unescaped equals sign, colon or blank. Blanks around
the separator are dropped, and after blanks one equals sign or colon still belongs to the
separator.
-/

/-- Whether a character separates a key from its value by itself. -/
def isEquals
    (character : Char) :
    Bool :=
  character == '=' || character == ':'

/-- Splits a line before its first unescaped separator; `escaping` says whether an unescaped
backslash stands directly before the line. -/
def splitKey
    (escaping : Bool) :
    List Char →
    List Char × List Char
  | [] => ([], [])
  | character :: line =>
      if !escaping && (isEquals character || isBlank character) then
        ([], character :: line)
      else
        let (key, rest) := splitKey (character == '\\' && !escaping) line
        (character :: key, rest)

/-- A line without one leading equals sign or colon. -/
def dropEquals :
    List Char →
    List Char
  | [] => []
  | character :: line =>
      if isEquals character then
        line
      else
        character :: line

/-- The value at the end of a line that starts with the separator. -/
def valueAfterKey :
    List Char →
    List Char
  | [] => []
  | separator :: line =>
      if isEquals separator then
        dropBlanks line
      else
        dropBlanks (dropEquals (dropBlanks line))

/-- The key and the value of a logical line, both as written. -/
def keyAndValue
    (line : List Char) :
    List Char × List Char :=
  let (key, rest) := splitKey false line
  (key, valueAfterKey rest)

end Phrasebook.Properties
