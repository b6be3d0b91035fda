import Phrasebook.Document.Toml.Quoted
import Phrasebook.Document.Toml.Table
import Phrasebook.Document.Toml.Word

namespace Phrasebook.Document.Toml

/-!
# Documents in TOML

A document is a list of lines: headers, which open a table, and entries, which belong to the table
opened last. Values may be nested up to a limit; a list may run over several lines, a table in
braces may not. A comment holds no control character but the tab.
-/

/-- The greatest number of values inside one another, and of parts of a key. -/
def greatestDepth :
    Nat :=
  79

/-- Whether a character may stand in a key without quotation marks. -/
def isKeyCharacter
    (character : Char) :
    Bool :=
  character.isAlphanum || character == '_' || character == '-'

/-- Reads one part of a key. -/
def readKeyPart :
    List Char →
    Option (String × List Char)
  | '\"' :: source =>
      (readBasic source).map fun (characters, rest) => (String.ofList characters, rest)
  | '\'' :: source =>
      (readLiteral source).map fun (characters, rest) => (String.ofList characters, rest)
  | source =>
      let characters := source.takeWhile isKeyCharacter
      if characters.isEmpty then
        none
      else
        some (String.ofList characters, source.dropWhile isKeyCharacter)

/-- Reads parts with dots between them, and any blanks around each. The fuel bounds the number of
parts. -/
def readKeyParts :
    (fuel : Nat) →
    List Char →
    Option (List String × List Char)
  | 0, _ => none
  | fuel + 1, source =>
      match readKeyPart (source.dropWhile isBlank) with
      | none => none
      | some (part, afterPart) =>
          match afterPart.dropWhile isBlank with
          | '.' :: rest =>
              (readKeyParts fuel rest).map fun (parts, remaining) => (part :: parts, remaining)
          | rest => some ([part], rest)

/-- Reads a key, which is one part or several with dots between them. -/
def readKey
    (source : List Char) :
    Option (List String × List Char) :=
  (readKeyParts (source.length + 1) source).filter fun (parts, _) => parts.length ≤ greatestDepth

/-- A text without the blanks, comments and ends of lines at its start. A comment also ends before
a character that it must not hold. -/
def dropLayout
    (inComment : Bool) :
    List Char →
    List Char
  | [] => []
  | '\n' :: source => dropLayout false source
  | '\r' :: '\n' :: source => dropLayout false source
  | character :: source =>
      if inComment then
        if isControl character then
          character :: source
        else
          dropLayout true source
      else if character = '#' then
        dropLayout true source
      else if isBlank character then
        dropLayout false source
      else
        character :: source

/-- What follows the end of a line, if nothing but blanks and a comment is left on it. -/
def endOfLine
    (source : List Char) :
    Option (List Char) :=
  let rest :=
    match source.dropWhile isBlank with
    | '#' :: comment => comment.dropWhile fun character => !isControl character
    | rest => rest
  match rest with
  | [] => some []
  | '\n' :: remaining => some remaining
  | '\r' :: '\n' :: remaining => some remaining
  | _ => none

mutual

/-- Reads a value that stands inside `depth` others. The fuel bounds the depth and the number of
items. -/
def readValue :
    (fuel : Nat) →
    (depth : Nat) →
    List Char →
    Option (Document × List Char)
  | 0, _, _ => none
  | fuel + 1, depth, source =>
      match source.dropWhile isBlank with
      | '[' :: rest =>
          if depth < greatestDepth then
            (readItems fuel (depth + 1) rest).map fun (items, remaining) =>
              (.list items, remaining)
          else
            none
      | '{' :: rest =>
          if depth < greatestDepth then
            match rest.dropWhile isBlank with
            | '}' :: remaining => some (.table [], remaining)
            | entries =>
                (readEntries fuel (depth + 1) [] entries).map fun (found, remaining) =>
                  (.table (finishedEntries found), remaining)
          else
            none
      | '\"' :: rest =>
          (readString ('\"' :: rest)).map fun (characters, remaining) =>
            (.text (String.ofList characters), remaining)
      | '\'' :: rest =>
          (readString ('\'' :: rest)).map fun (characters, remaining) =>
            (.text (String.ofList characters), remaining)
      | rest => readWord rest

/-- Reads the items of a list up to its end. -/
def readItems :
    (fuel : Nat) →
    (depth : Nat) →
    List Char →
    Option (List Document × List Char)
  | 0, _, _ => none
  | fuel + 1, depth, source =>
      match dropLayout false source with
      | ']' :: rest => some ([], rest)
      | start =>
          match readValue fuel depth start with
          | none => none
          | some (document, afterItem) =>
              match dropLayout false afterItem with
              | ']' :: rest => some ([document], rest)
              | ',' :: rest =>
                  (readItems fuel depth rest).map fun (documents, remaining) =>
                    (document :: documents, remaining)
              | _ => none

/-- Reads the entries of a table in braces up to its end. -/
def readEntries :
    (fuel : Nat) →
    (depth : Nat) →
    Entries →
    List Char →
    Option (Entries × List Char)
  | 0, _, _, _ => none
  | fuel + 1, depth, earlier, source =>
      match readKey source with
      | some (key, '=' :: afterKey) =>
          match readValue fuel depth afterKey with
          | none => none
          | some (document, afterValue) =>
              match insert document key earlier with
              | none => none
              | some entries =>
                  match afterValue.dropWhile isBlank with
                  | '}' :: rest => some (entries, rest)
                  | ',' :: rest => readEntries fuel depth entries rest
                  | _ => none
      | _ => none

end

/-- Reads the lines of a document. `path` leads to the table opened last. -/
def readLines :
    (fuel : Nat) →
    (path : List String) →
    Entries →
    List Char →
    Option Entries
  | 0, _, _, _ => none
  | fuel + 1, path, entries, source =>
      match dropLayout false source with
      | [] => some entries
      | '[' :: '[' :: start =>
          match readKey start with
          | some (key, ']' :: ']' :: afterHeader) =>
              match endOfLine afterHeader, openItem key entries with
              | some rest, some opened => readLines fuel key opened rest
              | _, _ => none
          | _ => none
      | '[' :: start =>
          match readKey start with
          | some (key, ']' :: afterHeader) =>
              match endOfLine afterHeader, openTable key entries with
              | some rest, some opened => readLines fuel key opened rest
              | _, _ => none
          | _ => none
      | start =>
          match readKey start with
          | some (key, '=' :: afterKey) =>
              match readValue (2 * afterKey.length + 2) 0 afterKey with
              | none => none
              | some (document, afterValue) =>
                  match endOfLine afterValue, descend (insert document key) path entries with
                  | some rest, some added => readLines fuel path added rest
                  | _, _ => none
          | _ => none

/-- The document that a text is. A byte order mark at its start is left out. -/
def read?
    (source : List Char) :
    Option Document :=
  let unmarked := withoutMark source
  (readLines (unmarked.length + 1) [] [] unmarked).map fun entries =>
    .table (finishedEntries entries)

/-- A choice that holds no value may be written as a key of an empty table or list, and values of a
record beyond its last field do not count. -/
def conventions :
    Conventions where
  isNothing
    | .table [] => true
    | .list [] => true
    | _ => false
  ignoresSurplus := true

end Phrasebook.Document.Toml
