import Phrasebook.Properties.Escape

namespace Phrasebook.Document

/-!
# Characters of documents

What the formats of configuration files have in common: the blanks within a line, and characters
that are written as a code.
-/

/-- Whether a character may stand between two tokens of a line. -/
def isBlank
    (character : Char) :
    Bool :=
  character == ' ' || character == '\t'

/-- The character whose code some hexadecimal digits denote. -/
def codedCharacter?
    (digits : List Char) :
    Option Char :=
  match Properties.readHexadecimal 0 digits.length digits with
  | .error _ => none
  | .ok (code, _) =>
      if Nat.isValidChar code then
        some (Char.ofNat code)
      else
        none

/-- A text without a byte order mark at its start. -/
def withoutMark :
    List Char →
    List Char
  | '\uFEFF' :: source => source
  | source => source

end Phrasebook.Document
