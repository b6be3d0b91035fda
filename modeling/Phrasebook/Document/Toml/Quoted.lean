import Phrasebook.Document.Character

namespace Phrasebook.Document.Toml

/-!
# Strings in TOML

Strings stand between quotation marks, in which backslashes escape, or between apostrophes, in
which every character stands for itself; tripled marks let a string run over several lines.
-/

/-- Whether a character may not be written in a string or a comment. -/
def isControl
    (character : Char) :
    Bool :=
  (character.toNat < 0x20 && character != '\t') || character.toNat == 0x7F

/-- The character of a short escape. -/
def shortEscape? :
    Char →
    Option Char
  | '\"' => some '\"'
  | '\\' => some '\\'
  | 'b' => some '\x08'
  | 'f' => some '\x0c'
  | 'n' => some '\n'
  | 'r' => some '\r'
  | 't' => some '\t'
  | _ => none

/-- A read string with one more character in front. -/
def prepend
    (character : Char) :
    Option (List Char × List Char) →
    Option (List Char × List Char)
  | none => none
  | some (characters, rest) => some (character :: characters, rest)

/-- Reads a string with escapes, after its opening quotation mark. -/
def readBasic :
    List Char →
    Option (List Char × List Char)
  | [] => none
  | '\"' :: rest => some ([], rest)
  | '\\' :: 'u' :: a :: b :: c :: d :: rest =>
      match codedCharacter? [a, b, c, d] with
      | none => none
      | some character => prepend character (readBasic rest)
  | '\\' :: 'U' :: a :: b :: c :: d :: e :: f :: g :: h :: rest =>
      match codedCharacter? [a, b, c, d, e, f, g, h] with
      | none => none
      | some character => prepend character (readBasic rest)
  | '\\' :: letter :: rest =>
      match shortEscape? letter with
      | none => none
      | some character => prepend character (readBasic rest)
  | character :: rest =>
      if isControl character || character = '\\' then
        none
      else
        prepend character (readBasic rest)

/-- Reads a string with escapes that may run over several lines, after its opening marks. While
`skipping`, blanks and ends of lines after a backslash at the end of a line are left out. -/
def readLongBasic
    (skipping : Bool) :
    List Char →
    Option (List Char × List Char)
  | [] => none
  | '\"' :: '\"' :: '\"' :: '\"' :: '\"' :: rest => some (['\"', '\"'], rest)
  | '\"' :: '\"' :: '\"' :: '\"' :: rest => some (['\"'], rest)
  | '\"' :: '\"' :: '\"' :: rest => some ([], rest)
  | '\\' :: 'u' :: a :: b :: c :: d :: rest =>
      match codedCharacter? [a, b, c, d] with
      | none => none
      | some character => prepend character (readLongBasic false rest)
  | '\\' :: 'U' :: a :: b :: c :: d :: e :: f :: g :: h :: rest =>
      match codedCharacter? [a, b, c, d, e, f, g, h] with
      | none => none
      | some character => prepend character (readLongBasic false rest)
  | '\\' :: letter :: rest =>
      match shortEscape? letter with
      | some character => prepend character (readLongBasic false rest)
      | none =>
          match (letter :: rest).dropWhile isBlank with
          | '\n' :: _ => readLongBasic true rest
          | '\r' :: '\n' :: _ => readLongBasic true rest
          | _ => none
  | '\r' :: '\n' :: rest =>
      if skipping then
        readLongBasic true rest
      else
        prepend '\n' (readLongBasic false rest)
  | character :: rest =>
      if skipping && (isBlank character || character == '\n') then
        readLongBasic true rest
      else if character = '\\' || (isControl character && character != '\n') then
        none
      else
        prepend character (readLongBasic false rest)

/-- Reads a string without escapes, after its opening apostrophe. -/
def readLiteral :
    List Char →
    Option (List Char × List Char)
  | [] => none
  | '\'' :: rest => some ([], rest)
  | character :: rest =>
      if isControl character then
        none
      else
        prepend character (readLiteral rest)

/-- Reads a string without escapes that may run over several lines, after its opening marks. -/
def readLongLiteral :
    List Char →
    Option (List Char × List Char)
  | [] => none
  | '\'' :: '\'' :: '\'' :: '\'' :: '\'' :: rest => some (['\'', '\''], rest)
  | '\'' :: '\'' :: '\'' :: '\'' :: rest => some (['\''], rest)
  | '\'' :: '\'' :: '\'' :: rest => some ([], rest)
  | '\r' :: '\n' :: rest => prepend '\n' (readLongLiteral rest)
  | character :: rest =>
      if isControl character && character != '\n' then
        none
      else
        prepend character (readLongLiteral rest)

/-- A text without the end of a line at its start. -/
def dropLineEnd :
    List Char →
    List Char
  | '\n' :: rest => rest
  | '\r' :: '\n' :: rest => rest
  | source => source

/-- Reads a string of any kind. -/
def readString :
    List Char →
    Option (List Char × List Char)
  | '\"' :: '\"' :: '\"' :: rest => readLongBasic false (dropLineEnd rest)
  | '\"' :: rest => readBasic rest
  | '\'' :: '\'' :: '\'' :: rest => readLongLiteral (dropLineEnd rest)
  | '\'' :: rest => readLiteral rest
  | _ => none

end Phrasebook.Document.Toml
