import Phrasebook.Document.Basic
import Phrasebook.Document.Toml.Moment
import Phrasebook.Document.Toml.Number

namespace Phrasebook.Document.Toml

/-!
# Words in TOML

A value that is neither a string nor in brackets is one word, and its shape decides what it is.
-/

/-- Whether a character may stand in a word. -/
def isWordCharacter
    (character : Char) :
    Bool :=
  character.isAlphanum || character == '+' || character == '-' || character == '_' ||
    character == '.' || character == ':'

/-- The document that a word is. -/
def ofWord?
    (word : List Char) :
    Option Document :=
  if word == ['t', 'r', 'u', 'e'] then
    some (.boolean true)
  else if word == ['f', 'a', 'l', 's', 'e'] then
    some (.boolean false)
  else if isDecimal word then
    some (.decimal (String.ofList word))
  else if isMoment word then
    some (.moment (String.ofList word))
  else
    (integer? word).map .integer

/-- Reads a word. A day may be followed by a blank and a time. -/
def readWord
    (source : List Char) :
    Option (Document × List Char) :=
  let word := source.takeWhile isWordCharacter
  let rest := source.dropWhile isWordCharacter
  let time := (rest.drop 1).takeWhile isWordCharacter
  if isDay word && rest.head? == some ' ' && isTime true time then
    some (.moment (String.ofList (word ++ [' '] ++ time)),
      (rest.drop 1).dropWhile isWordCharacter)
  else
    (ofWord? word).map fun document => (document, rest)

end Phrasebook.Document.Toml
