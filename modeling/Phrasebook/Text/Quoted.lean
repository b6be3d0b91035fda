import Phrasebook.Text.HiddenTable

namespace Phrasebook.Text

/-!
# Quoted text

A text between quotation marks, on one line and without hidden characters. Five characters have
short escapes, every other hidden character is written as its code point in hexadecimal, and the
rest stands for itself.
-/

/-- Whether quoted text shows a character by its code point. -/
def isHidden
    (character : Char) :
    Bool :=
  if character.toNat < 0x7F then
    character.toNat < 0x20
  else
    inRuns hiddenRuns character

/-- The lowercase hexadecimal digits of a number, without leading zeros. -/
def hexadecimal
    (number : Nat) :
    List Char :=
  Nat.toDigits 16 number

/-- The written form of one character inside quotation marks. -/
def escaped
    (character : Char) :
    List Char :=
  if character = '\x00' then
    ['\\', '0']
  else if character = '\t' then
    ['\\', 't']
  else if character = '\r' then
    ['\\', 'r']
  else if character = '\n' then
    ['\\', 'n']
  else if character = '\\' then
    ['\\', '\\']
  else if character = '\"' then
    ['\\', '\"']
  else if isHidden character then
    ['\\', 'u', '{'] ++ hexadecimal character.toNat ++ ['}']
  else
    [character]

/-- A text between quotation marks. -/
def quoted
    (text : List Char) :
    List Char :=
  '\"' :: text.flatMap escaped ++ ['\"']

/-- A string between quotation marks. -/
def quotedString
    (text : String) :
    String :=
  String.ofList (quoted text.toList)

end Phrasebook.Text
