import Phrasebook.Document.Character

namespace Phrasebook.Document.Yaml

/-!
# Places in a YAML text

Outside of brackets it is the indentation that tells what belongs together, so whoever reads a text
keeps track of lines and columns.
-/

/-- Whether a character may stand in a text at all. Of the control characters these are the tab and
the ends of lines. -/
def isAllowed
    (character : Char) :
    Bool :=
  let code := character.toNat
  code == 0x09 || code == 0x0A || code == 0x0D || (0x20 ≤ code && code ≤ 0x7E) || code == 0x85 ||
    (0xA0 ≤ code && code ≤ 0xFFFD) || 0x10000 ≤ code

/-- A text in which every end of a line that is not told apart from others is a line feed. -/
def unifyBreaks :
    List Char →
    List Char
  | [] => []
  | '\r' :: '\n' :: source => '\n' :: unifyBreaks source
  | '\r' :: source => '\n' :: unifyBreaks source
  | '\u0085' :: source => '\n' :: unifyBreaks source
  | character :: source => character :: unifyBreaks source

/-- Whether a character ends a line. -/
def isBreak
    (character : Char) :
    Bool :=
  character == '\n' || character == '\u2028' || character == '\u2029'

/-- Whether a text starts with a blank. -/
def startsBlank :
    List Char →
    Bool
  | [] => false
  | character :: _ => isBlank character

/-- Whether a line ends where a text starts. -/
def startsBreak :
    List Char →
    Bool
  | [] => false
  | character :: _ => isBreak character

/-- Whether nothing, a blank or the end of a line comes first in a text. -/
def startsApart
    (source : List Char) :
    Bool :=
  source.isEmpty || startsBlank source || startsBreak source

/-- Whether a character may stand in the name of an anchor, a directive or a tag handle. -/
def isNameCharacter
    (character : Char) :
    Bool :=
  character.isAlphanum || character == '_' || character == '-'

/-- What is left of a text, and how many characters, lines, and characters of the line come before
it. -/
structure Cursor where
  rest : List Char
  index : Nat := 0
  line : Nat := 0
  column : Nat := 0

namespace Cursor

/-- The place after one more character. -/
def next
    (cursor : Cursor) :
    Cursor :=
  match cursor.rest with
  | [] => cursor
  | character :: rest =>
      if isBreak character then
        ⟨rest, cursor.index + 1, cursor.line + 1, 0⟩
      else
        ⟨rest, cursor.index + 1, cursor.line, cursor.column + 1⟩

/-- The place after some more characters. -/
def drop
    (count : Nat)
    (cursor : Cursor) :
    Cursor :=
  count.repeat next cursor

/-- The place of the first character for which a condition does not hold. -/
def dropWhile
    (condition : Char → Bool)
    (cursor : Cursor) :
    Cursor :=
  cursor.drop (cursor.rest.takeWhile condition).length

/-- Whether a line starts here with a mark between documents. -/
def atDocumentMark
    (mark : List Char)
    (cursor : Cursor) :
    Bool :=
  cursor.column == 0 && mark.isPrefixOf cursor.rest && startsApart (cursor.rest.drop mark.length)

/-- Whether a document starts or ends here. -/
def atDocumentEdge
    (cursor : Cursor) :
    Bool :=
  cursor.atDocumentMark ['-', '-', '-'] || cursor.atDocumentMark ['.', '.', '.']

/-- The place after the rest of a line that holds nothing but a comment. -/
def afterComment?
    (cursor : Cursor) :
    Option Cursor :=
  let unblank := cursor.dropWhile isBlank
  let uncommented :=
    if unblank.rest.head? == some '#' then
      unblank.dropWhile (!isBreak ·)
    else
      unblank
  if uncommented.rest.isEmpty || startsBreak uncommented.rest then
    some uncommented.next
  else
    none

end Cursor

end Phrasebook.Document.Yaml
