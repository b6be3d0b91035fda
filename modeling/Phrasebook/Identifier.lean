import Phrasebook.Text.LetterCase

namespace Phrasebook

/-!
# Identifiers of generated code

A name that can stand unquoted in generated code: ASCII letters, digits and underscores, not led
by a digit, not a lone underscore, and not one of the words the target language keeps for itself.

Names made from other text split it into segments at dots, underscores and hyphens, and each
style then writes the segments in its own case.
-/

namespace Identifier

/-- The words that the target language uses or reserves. -/
def reservedWords :
    List String :=
  [
    "as", "break", "const", "continue", "crate", "else", "enum", "extern", "false", "fn",
    "for", "if", "impl", "in", "let", "loop", "match", "mod", "move", "mut", "pub", "ref",
    "return", "self", "Self", "static", "struct", "super", "trait", "true", "type",
    "unsafe", "use", "where", "while", "async", "await", "dyn", "abstract", "become",
    "box", "do", "final", "macro", "override", "priv", "typeof", "unsized", "virtual",
    "yield", "try", "gen"
  ]

/-- Whether a character may lead an identifier. -/
def isLead
    (character : Char) :
    Bool :=
  character.isAlpha || character == '_'

/-- Whether a character may stand in an identifier. -/
def isPart
    (character : Char) :
    Bool :=
  character.isAlpha || character.isDigit || character == '_'

/-- Whether a text has the shape of an ASCII name. -/
def isName :
    List Char →
    Bool
  | [] => false
  | lead :: rest => isLead lead && rest.all isPart

/-- Whether a name can be used as an identifier. -/
def isLegal
    (name : String) :
    Bool :=
  name != "_" && isName name.toList && !reservedWords.contains name

/-- The nonempty runs of characters between dots, underscores and hyphens. -/
def segments
    (text : List Char) :
    List (List Char) :=
  (text.splitOnP fun character =>
    character == '.' || character == '_' || character == '-').filter (!·.isEmpty)

/-- A segment with its first character in uppercase. -/
def capitalized :
    List Char →
    List Char
  | [] => []
  | first :: rest => Text.uppercase first ++ rest

/-- The segments of a text run together, each but the first capitalized. -/
def camelCase
    (text : List Char) :
    List Char :=
  match segments text with
  | [] => []
  | first :: rest => first ++ rest.flatMap capitalized

/-- The segments of a text run together, each in lowercase with a capital lead. -/
def upperCamelCase
    (text : List Char) :
    List Char :=
  (segments text).flatMap fun segment => capitalized (Text.lowercaseText segment)

/-- The lowercase words of a segment of which `word` has been read: a new word starts at an
uppercase letter directly after a lowercase letter or a digit. -/
def wordsFrom
    (word : List Char)
    (afterLowercase : Bool) :
    List Char →
    List (List Char)
  | [] => [word]
  | character :: segment =>
      let nowLowercase := Text.isLowercase character || character.isDigit
      if Text.isUppercase character && afterLowercase then
        word :: wordsFrom (Text.lowercase character) nowLowercase segment
      else
        wordsFrom (word ++ Text.lowercase character) nowLowercase segment

/-- The lowercase words of a segment. -/
def segmentWords
    (segment : List Char) :
    List (List Char) :=
  wordsFrom [] false segment

/-- The lowercase words of a text with an underscore between neighbours. -/
def snakeCase
    (text : List Char) :
    List Char :=
  ['_'].intercalate ((segments text).flatMap segmentWords)

end Identifier

end Phrasebook
