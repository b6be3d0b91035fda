import Phrasebook.Document.Basic
import Phrasebook.Properties.Escape
import Phrasebook.Text.Decimal

namespace Phrasebook.Document.Json

/-!
# Documents in JSON

Reading refuses everything outside the standard: comments, trailing commas, control characters in
strings, and numbers with leading zeros. A string in which half of a surrogate pair is escaped
without the other half is unreadable. Writing puts every item and entry on a line of its own, two
spaces deeper than what holds it.
-/

/-- Whether a character may stand between two tokens. -/
def isBlank
    (character : Char) :
    Bool :=
  character == ' ' || character == '\n' || character == '\r' || character == '\t'

/-- A text without its leading blanks. -/
def dropBlanks
    (source : List Char) :
    List Char :=
  source.dropWhile isBlank

/-- The character of a short escape. -/
def shortEscape? :
    Char →
    Option Char
  | '\"' => some '\"'
  | '\\' => some '\\'
  | '/' => some '/'
  | 'b' => some '\x08'
  | 'f' => some '\x0c'
  | 'n' => some '\n'
  | 'r' => some '\r'
  | 't' => some '\t'
  | _ => none

/-- A string that has been read, and what follows it. There is no content if an escape denotes no
character. -/
structure StringReading where
  content : Option (List Char)
  rest : List Char

namespace StringReading

/-- A string with one more character in front, which may be one that does not exist. -/
def prepend
    (character : Option Char)
    (reading : StringReading) :
    StringReading where
  content :=
    match character, reading.content with
    | some character, some characters => some (character :: characters)
    | _, _ => none
  rest := reading.rest

/-- The text of a string. -/
def text?
    (reading : StringReading) :
    Option String :=
  reading.content.map String.ofList

/-- The document of a string. -/
def toDocument
    (reading : StringReading) :
    Document :=
  match reading.text? with
  | some content => .text content
  | none => .unreadable

end StringReading

/-- Reads a string after its opening quotation mark. The fuel bounds the number of characters. -/
def readString :
    (fuel : Nat) →
    List Char →
    Option StringReading
  | 0, _ => none
  | _ + 1, [] => none
  | _ + 1, '\"' :: source => some ⟨some [], source⟩
  | fuel + 1, '\\' :: 'u' :: source =>
      match Properties.readUnit source, Properties.readUnicode source with
      | .error _, _ => none
      | .ok _, .ok (character, rest) => (readString fuel rest).map (·.prepend (some character))
      | .ok (_, rest), .error _ => (readString fuel rest).map (·.prepend none)
  | fuel + 1, '\\' :: letter :: source =>
      match shortEscape? letter with
      | none => none
      | some character => (readString fuel source).map (·.prepend (some character))
  | fuel + 1, character :: source =>
      if character.toNat < 0x20 || character = '\\' then
        none
      else
        (readString fuel source).map (·.prepend (some character))

/-- Whether a text is the integer part of a number: digits without a leading zero. -/
def isWhole :
    List Char →
    Bool
  | [] => false
  | ['0'] => true
  | '0' :: _ => false
  | digits => digits.all Char.isDigit

/-- Reads the digits after a point, if there is a point. -/
def readFraction :
    List Char →
    Option (List Char × List Char)
  | '.' :: source =>
      let digits := source.takeWhile Char.isDigit
      if digits.isEmpty then
        none
      else
        some ('.' :: digits, source.dropWhile Char.isDigit)
  | source => some ([], source)

/-- Reads an exponent, if there is one. -/
def readExponent :
    List Char →
    Option (List Char × List Char)
  | [] => some ([], [])
  | letter :: source =>
      if letter = 'e' || letter = 'E' then
        let unsigned :=
          match source with
          | '+' :: digits => digits
          | '-' :: digits => digits
          | digits => digits
        let digits := unsigned.takeWhile Char.isDigit
        if digits.isEmpty then
          none
        else
          some (letter :: digits, unsigned.dropWhile Char.isDigit)
      else
        some ([], letter :: source)

/-- The document of a number that was written without fraction and exponent. -/
def wholeNumber
    (negative : Bool)
    (digits : List Char) :
    Document :=
  let value := Text.decimalValue digits
  if negative then
    if value = 0 || 9223372036854775808 < value then
      .decimal (String.ofList ('-' :: digits))
    else
      .integer (-value)
  else if largestCount < value then
    .decimal (String.ofList digits)
  else
    .integer value

/-- Reads a number after its sign. -/
def readNumber
    (negative : Bool)
    (source : List Char) :
    Option (Document × List Char) :=
  let digits := source.takeWhile Char.isDigit
  if isWhole digits then
    match readFraction (source.dropWhile Char.isDigit) with
    | none => none
    | some (fraction, afterFraction) =>
        match readExponent afterFraction with
        | none => none
        | some ([], rest) =>
            if fraction.isEmpty then
              some (wholeNumber negative digits, rest)
            else
              some (.decimal (String.ofList (digits ++ fraction)), rest)
        | some (exponent, rest) =>
            some (.decimal (String.ofList (digits ++ fraction ++ exponent)), rest)
  else
    none

mutual

/-- Reads a value. The fuel bounds the depth and the number of items. -/
def readValue :
    (fuel : Nat) →
    List Char →
    Option (Document × List Char)
  | 0, _ => none
  | fuel + 1, source =>
      match dropBlanks source with
      | 'n' :: 'u' :: 'l' :: 'l' :: rest => some (.null, rest)
      | 't' :: 'r' :: 'u' :: 'e' :: rest => some (.boolean true, rest)
      | 'f' :: 'a' :: 'l' :: 's' :: 'e' :: rest => some (.boolean false, rest)
      | '\"' :: rest =>
          (readString (rest.length + 1) rest).map fun reading =>
            (reading.toDocument, reading.rest)
      | '[' :: rest =>
          match dropBlanks rest with
          | ']' :: remaining => some (.list [], remaining)
          | items =>
              (readItems fuel items).map fun (documents, remaining) =>
                (.list documents, remaining)
      | '{' :: rest =>
          match dropBlanks rest with
          | '}' :: remaining => some (.table [], remaining)
          | entries =>
              (readEntries fuel entries).map fun (found, remaining) =>
                (ofEntries found, remaining)
      | '-' :: rest => readNumber true rest
      | rest => readNumber false rest

/-- Reads the items of a list up to its end. -/
def readItems :
    (fuel : Nat) →
    List Char →
    Option (List Document × List Char)
  | 0, _ => none
  | fuel + 1, source =>
      match readValue fuel source with
      | none => none
      | some (document, afterItem) =>
          match dropBlanks afterItem with
          | ']' :: rest => some ([document], rest)
          | ',' :: rest =>
              (readItems fuel rest).map fun (documents, remaining) =>
                (document :: documents, remaining)
          | _ => none

/-- Reads the entries of a table up to its end. -/
def readEntries :
    (fuel : Nat) →
    List Char →
    Option (List (Option String × Document) × List Char)
  | 0, _ => none
  | fuel + 1, source =>
      match dropBlanks source with
      | '\"' :: afterQuote =>
          match readString (afterQuote.length + 1) afterQuote with
          | none => none
          | some key =>
              match dropBlanks key.rest with
              | ':' :: afterColon =>
                  match readValue fuel afterColon with
                  | none => none
                  | some (document, afterValue) =>
                      match dropBlanks afterValue with
                      | '}' :: rest => some ([(key.text?, document)], rest)
                      | ',' :: rest =>
                          (readEntries fuel rest).map fun (documents, remaining) =>
                            ((key.text?, document) :: documents, remaining)
                      | _ => none
              | _ => none
      | _ => none

end

/-- The document that a text is. -/
def read?
    (source : List Char) :
    Option Document :=
  match readValue (2 * source.length + 2) source with
  | none => none
  | some (document, rest) =>
      if (dropBlanks rest).isEmpty then
        some document
      else
        none

/-- A character of a string as it is written. -/
def writtenCharacter
    (character : Char) :
    List Char :=
  if character = '\"' then
    ['\\', '\"']
  else if character = '\\' then
    ['\\', '\\']
  else if character = '\x08' then
    ['\\', 'b']
  else if character = '\x0c' then
    ['\\', 'f']
  else if character = '\n' then
    ['\\', 'n']
  else if character = '\r' then
    ['\\', 'r']
  else if character = '\t' then
    ['\\', 't']
  else if character.toNat < 0x10 then
    ['\\', 'u', '0', '0', '0'] ++ Text.hexadecimal character.toNat
  else if character.toNat < 0x20 then
    ['\\', 'u', '0', '0'] ++ Text.hexadecimal character.toNat
  else
    [character]

/-- A string as it is written. -/
def writtenString
    (source : String) :
    String :=
  "\"" ++ String.ofList (source.toList.flatMap writtenCharacter) ++ "\""

/-- The spaces at the start of a line. -/
def indentation
    (depth : Nat) :
    String :=
  String.ofList (List.replicate (2 * depth) ' ')

/-- Written items or entries between brackets, one on each line. -/
def enclosed
    (depth : Nat)
    (opening closing : String)
    (written : List String) :
    String :=
  if written.isEmpty then
    opening ++ closing
  else
    opening ++ "\n" ++ indentation (depth + 1) ++
      (",\n" ++ indentation (depth + 1)).intercalate written ++
      "\n" ++ indentation depth ++ closing

mutual

/-- A document as it is written at a depth. -/
def write
    (depth : Nat) :
    Document →
    String
  | .null => "null"
  | .boolean true => "true"
  | .boolean false => "false"
  | .integer value => toString value
  | .decimal written => written
  | .text value => writtenString value
  | .scalar value => writtenString value.content
  | .moment written => writtenString written
  | .unreadable => "null"
  | .list items => enclosed depth "[" "]" (writeItems (depth + 1) items)
  | .table entries => enclosed depth "\x7b" "\x7d" (writeEntries (depth + 1) entries)

/-- The items of a list as they are written at a depth. -/
def writeItems
    (depth : Nat) :
    List Document →
    List String
  | [] => []
  | item :: items => write depth item :: writeItems depth items

/-- The entries of a table as they are written at a depth. -/
def writeEntries
    (depth : Nat) :
    List (String × Document) →
    List String
  | [] => []
  | (key, value) :: entries =>
      (writtenString key ++ ": " ++ write depth value) :: writeEntries depth entries

end

/-- A choice that holds no value may be written as the key of null, and a record has no values
beyond its last field. -/
def conventions :
    Conventions where
  isNothing
    | .null => true
    | _ => false
  ignoresSurplus := false

end Phrasebook.Document.Json
