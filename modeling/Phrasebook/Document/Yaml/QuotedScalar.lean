import Phrasebook.Document.Yaml.Gap

namespace Phrasebook.Document.Yaml

/-!
# Scalars between quotation marks

Between apostrophes a doubled apostrophe stands for one. Between quotation marks a backslash
escapes; at the end of a line it joins the line with the next one.
-/

/-- The character of a short escape. -/
def shortEscape? :
    Char →
    Option Char
  | '0' => some '\x00'
  | 'a' => some '\x07'
  | 'b' => some '\x08'
  | 't' => some '\t'
  | '\t' => some '\t'
  | 'n' => some '\n'
  | 'v' => some '\x0b'
  | 'f' => some '\x0c'
  | 'r' => some '\r'
  | 'e' => some '\x1b'
  | ' ' => some ' '
  | '\"' => some '\"'
  | '/' => some '/'
  | '\\' => some '\\'
  | 'N' => some '\u0085'
  | '_' => some '\u00a0'
  | 'L' => some '\u2028'
  | 'P' => some '\u2029'
  | _ => none

/-- The number of digits of a character that is written as its code. -/
def codeLength? :
    Char →
    Option Nat
  | 'x' => some 2
  | 'u' => some 4
  | 'U' => some 8
  | _ => none

/-- The character of an escape after its backslash, and the number of characters it takes. -/
def escape?
    (source : List Char) :
    Option (Char × Nat) :=
  match source with
  | [] => none
  | letter :: rest =>
      match codeLength? letter with
      | none => (shortEscape? letter).map fun character => (character, 1)
      | some count =>
          let digits := rest.take count
          if digits.length = count then
            (codedCharacter? digits).map fun character => (character, count + 1)
          else
            none

/-- Whether a scalar stands between apostrophes or between quotation marks. -/
inductive QuotationStyle where
  | apostrophes
  | marks
  deriving Repr, DecidableEq

/-- The character around a scalar. -/
def QuotationStyle.mark :
    QuotationStyle →
    Char
  | .apostrophes => '\''
  | .marks => '\"'

/-- The characters up to a blank, the end of a line, or the closing mark, whether the end of the
line is escaped, and the place after them. -/
structure QuotedWord where
  content : List Char
  joinsLines : Bool
  cursor : Cursor

/-- A word with one more character in front. -/
def QuotedWord.prepend
    (character : Char)
    (word : QuotedWord) :
    QuotedWord :=
  { word with content := character :: word.content }

/-- Reads a word of a quoted scalar. The fuel bounds the number of characters. -/
def QuotedWord.read
    (style : QuotationStyle) :
    (fuel : Nat) →
    Cursor →
    Option QuotedWord
  | 0, _ => none
  | fuel + 1, cursor =>
      match cursor.rest with
      | [] => some ⟨[], false, cursor⟩
      | character :: rest =>
          if isBlank character || isBreak character then
            some ⟨[], false, cursor⟩
          else if character = style.mark then
            if style = .apostrophes && rest.head? == some '\'' then
              (read style fuel (cursor.drop 2)).map (prepend '\'')
            else
              some ⟨[], false, cursor⟩
          else if style = .apostrophes || character ≠ '\\' then
            (read style fuel cursor.next).map (prepend character)
          else if startsBreak rest then
            some ⟨[], true, cursor.drop 2⟩
          else
            match escape? rest with
            | none => none
            | some (escaped, length) =>
                (read style fuel (cursor.drop (length + 1))).map (prepend escaped)

/-- Reads a quoted scalar after its opening mark. The fuel bounds the number of words. -/
def readQuotedAfter
    (style : QuotationStyle) :
    (fuel : Nat) →
    Cursor →
    Option (List Char × Cursor)
  | 0, _ => none
  | fuel + 1, cursor =>
      if cursor.atDocumentEdge || cursor.rest.isEmpty then
        none
      else
        match QuotedWord.read style (cursor.rest.length + 1) cursor with
        | none => none
        | some word =>
            if word.cursor.rest.head? == some style.mark then
              some (word.content, word.cursor.next)
            else
              match Gap.read 0 (word.cursor.rest.length + 1) word.joinsLines word.cursor with
              | none => none
              | some gap =>
                  let between :=
                    if word.joinsLines then
                      gap.breaks
                    else
                      gap.folded
                  (readQuotedAfter style fuel gap.cursor).map fun (content, after) =>
                    (word.content ++ between ++ content, after)

/-- Reads a quoted scalar from its opening mark to its closing one. -/
def readQuoted
    (style : QuotationStyle)
    (cursor : Cursor) :
    Option (List Char × Cursor) :=
  readQuotedAfter style (cursor.rest.length + 1) cursor.next

end Phrasebook.Document.Yaml
