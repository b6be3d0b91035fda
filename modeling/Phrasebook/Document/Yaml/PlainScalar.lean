import Phrasebook.Document.Yaml.Gap

namespace Phrasebook.Document.Yaml

/-!
# Scalars without quotation marks

Such a scalar ends before a comment, at a colon with a blank after it, before a mark between
documents, in brackets at their marks, and outside of brackets where the indentation decreases.
-/

/-- Whether a character is a mark between brackets. -/
def isFlowMark
    (character : Char) :
    Bool :=
  [',', '[', ']', '\x7b', '\x7d'].contains character

/-- Whether a character says at the start of a value that it is something else than a scalar
without quotation marks. -/
def isIndicator
    (character : Char) :
    Bool :=
  ['#', '&', '*', '!', '|', '>', '\'', '\"', '%', '@', '\x60'].contains character

/-- Whether a scalar without quotation marks starts with a text. -/
def startsPlain
    (inBrackets : Bool)
    (source : List Char) :
    Bool :=
  match source with
  | [] => false
  | character :: rest =>
      if character = '-' then
        !startsBlank rest
      else if character = '?' || character = ':' then
        !inBrackets && !startsApart rest
      else
        !startsApart source && !isFlowMark character && !isIndicator character

/-- The characters up to a blank, the end of a line, or the end of a scalar. Between brackets a
colon must not stand right before a mark. -/
def plainWord?
    (inBrackets : Bool) :
    List Char →
    Option (List Char)
  | [] => some []
  | character :: rest =>
      if isBlank character || isBreak character then
        some []
      else if character = ':' && inBrackets &&
          rest.head?.any fun follower => isFlowMark follower || follower == '?' then
        none
      else if (character = ':' && startsApart rest) || (inBrackets && isFlowMark character) then
        some []
      else
        (plainWord? inBrackets rest).map (character :: ·)

/-- The text of a scalar without quotation marks, whether lines have ended after it, and the place
after the blanks and ends of lines that follow it. -/
structure PlainReading where
  content : List Char
  lineEnded : Bool
  cursor : Cursor

/-- Reads a scalar without quotation marks after a part of it and a gap. The fuel bounds the number
of words. -/
def readPlainAfter
    (inBrackets : Bool)
    (leastColumn : Nat) :
    (fuel : Nat) →
    (gap : List Char) →
    (lineEnded : Bool) →
    Cursor →
    Option PlainReading
  | 0, _, _, _ => none
  | fuel + 1, gap, lineEnded, cursor =>
      if cursor.atDocumentEdge || cursor.rest.head? == some '#' then
        some ⟨[], lineEnded, cursor⟩
      else
        match plainWord? inBrackets cursor.rest with
        | none => none
        | some [] => some ⟨[], lineEnded, cursor⟩
        | some word =>
            let afterWord := cursor.drop word.length
            match Gap.read leastColumn (afterWord.rest.length + 1) false afterWord with
            | none => none
            | some next =>
                let ended := !next.breaks.isEmpty
                let following :=
                  if !inBrackets && next.cursor.column < leastColumn then
                    some ⟨[], ended, next.cursor⟩
                  else
                    readPlainAfter inBrackets leastColumn fuel next.folded ended next.cursor
                following.map fun reading =>
                  { reading with content := gap ++ word ++ reading.content }

/-- Reads a scalar without quotation marks, the further lines of which lie at or to the right of a
column. -/
def readPlain
    (inBrackets : Bool)
    (leastColumn : Nat)
    (cursor : Cursor) :
    Option PlainReading :=
  readPlainAfter inBrackets leastColumn (cursor.rest.length + 1) [] false cursor

end Phrasebook.Document.Yaml
