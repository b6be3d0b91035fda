import Phrasebook.Text.Lines

namespace Phrasebook.Properties

/-!
# Logical lines

A comment or blank line is skipped. Any other physical line starts a logical line, which goes on
with the next physical line as long as it ends in an odd number of backslashes; the last of these
is then dropped, and so are the blanks that lead the next line. A logical line is numbered by the
physical line on which it starts.
-/

/-- Whether a character is a blank: a space, a tab or a form feed. -/
def isBlank
    (character : Char) :
    Bool :=
  character == ' ' || character == '\t' || character == '\x0c'

/-- A line without its leading blanks. -/
def dropBlanks
    (line : List Char) :
    List Char :=
  line.dropWhile isBlank

/-- Whether a line without leading blanks is blank or a comment. -/
def isSkipped :
    List Char →
    Bool
  | [] => true
  | character :: _ => character == '#' || character == '!'

/-- Whether a line ends in an odd number of backslashes. -/
def isContinued
    (line : List Char) :
    Bool :=
  (line.reverse.takeWhile (· == '\\')).length % 2 == 1

/-- The text of a logical line and the number of its first physical line. -/
structure LogicalLine where
  number : Nat
  text : List Char
  deriving Repr, DecidableEq

/-- The logical lines of some physical lines, the first of which has a number. A logical line
whose continuation is due is passed along without its last backslash. -/
def logicalLinesFrom
    (number : Nat)
    (continued : Option LogicalLine) :
    List (List Char) →
    List LogicalLine
  | [] => continued.toList
  | line :: lines =>
      let trimmed := dropBlanks line
      match continued with
      | none =>
          if isSkipped trimmed then
            logicalLinesFrom (number + 1) none lines
          else if isContinued trimmed then
            logicalLinesFrom (number + 1) (some ⟨number, trimmed.dropLast⟩) lines
          else
            ⟨number, trimmed⟩ :: logicalLinesFrom (number + 1) none lines
      | some start =>
          let text := start.text ++ trimmed
          if isContinued text then
            logicalLinesFrom (number + 1) (some ⟨start.number, text.dropLast⟩) lines
          else
            ⟨start.number, text⟩ :: logicalLinesFrom (number + 1) none lines

/-- The logical lines of a text; physical lines are counted from one. -/
def logicalLines
    (text : List Char) :
    List LogicalLine :=
  logicalLinesFrom 1 none (Text.physicalLines text)

end Phrasebook.Properties
