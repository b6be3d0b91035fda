import Phrasebook.Document.Yaml.BlockScalar
import Phrasebook.Document.Yaml.PlainScalar
import Phrasebook.Document.Yaml.QuotedScalar
import Phrasebook.Document.Yaml.TokenDraft

namespace Phrasebook.Document.Yaml

/-!
# The tokens of a text

The first characters of a token decide what it is. Some marks are marks only where a blank follows,
and between brackets there are marks that are plain characters elsewhere.
-/

namespace TokenDraft

/-- The name of an anchor or alias that starts here, after its first character. A blank or one of a
few marks has to follow it. -/
def anchorName?
    (cursor : Cursor) :
    Option (List Char) :=
  let name := (cursor.rest.drop 1).takeWhile isNameCharacter
  let rest := cursor.rest.drop (name.length + 1)
  let isFollowed := startsApart rest ||
    rest.head?.any fun character =>
      ['?', ':', ',', ']', '\x7d', '%', '@', '\x60'].contains character
  if !name.isEmpty && isFollowed then
    some name
  else
    none

/-- Adds an anchor or an alias. -/
def addAnchor
    (token : String → Token)
    (draft : TokenDraft) :
    Option TokenDraft :=
  match draft.noteKeyStart, anchorName? draft.cursor with
  | some noted, some name =>
      some ((noted.addMark (token (String.ofList name)) (name.length + 1)).allowKey false)
  | _, _ => none

/-- Adds a tag. -/
def addTag
    (draft : TokenDraft) :
    Option TokenDraft :=
  match draft.noteKeyStart, readTag draft.inBrackets draft.cursor with
  | some noted, some (tag, after) =>
      some { (noted.add (.tag tag)).allowKey false with cursor := after }
  | _, _ => none

/-- Adds a scalar of lines. A key may start after it. -/
def addBlockScalar
    (folds : Bool)
    (draft : TokenDraft) :
    Option TokenDraft :=
  match draft.dropKeyStart, readBlock folds draft.leastColumn draft.cursor with
  | some dropped, some (content, after) =>
      let style : ScalarStyle := if folds then .quoted else .keptLines
      some { (dropped.add (.scalar (String.ofList content) style)).allowKey true with
        cursor := after }
  | _, _ => none

/-- Adds a quoted scalar. -/
def addQuotedScalar
    (style : QuotationStyle)
    (draft : TokenDraft) :
    Option TokenDraft :=
  match draft.noteKeyStart, readQuoted style draft.cursor with
  | some noted, some (content, after) =>
      some { (noted.add (.scalar (String.ofList content) .quoted)).allowKey false with
        cursor := after }
  | _, _ => none

/-- Adds a scalar without quotation marks. A key may start after it if its line has ended. -/
def addPlainScalar
    (draft : TokenDraft) :
    Option TokenDraft :=
  match draft.noteKeyStart, readPlain draft.inBrackets draft.leastColumn draft.cursor with
  | some noted, some reading =>
      some { (noted.add (.scalar (String.ofList reading.content) .plain)).allowKey
          reading.lineEnded with
        cursor := reading.cursor }
  | _, _ => none

/-- Adds the token that starts here. -/
def addToken
    (draft : TokenDraft) :
    Option TokenDraft :=
  let cursor := draft.cursor
  let rest := cursor.rest.drop 1
  let isMark := draft.inBrackets || startsApart rest
  if cursor.atDocumentMark ['-', '-', '-'] then
    draft.addOutermost .documentStart (cursor.drop 3)
  else if cursor.atDocumentMark ['.', '.', '.'] then
    draft.addOutermost .documentEnd (cursor.drop 3)
  else
    match cursor.rest.head? with
    | none => none
    | some character =>
        if character = '%' && cursor.column = 0 then
          match Directive.read cursor with
          | none => none
          | some (directive, after) => draft.addOutermost (.directive directive) after
        else if character = '[' then
          draft.openBracket .opensList
        else if character = '\x7b' then
          draft.openBracket .opensTable
        else if character = ']' then
          draft.closeBracket .closesList
        else if character = '\x7d' then
          draft.closeBracket .closesTable
        else if character = ',' then
          draft.addComma
        else if character = '-' && startsApart rest then
          draft.addItem
        else if character = '?' && isMark then
          draft.addKey
        else if character = ':' && isMark then
          draft.addValue
        else if character = '*' then
          draft.addAnchor .alias
        else if character = '&' then
          draft.addAnchor .anchor
        else if character = '!' then
          draft.addTag
        else if character = '|' && !draft.inBrackets then
          draft.addBlockScalar false
        else if character = '>' && !draft.inBrackets then
          draft.addBlockScalar true
        else if character = '\'' then
          draft.addQuotedScalar .apostrophes
        else if character = '\"' then
          draft.addQuotedScalar .marks
        else if startsPlain draft.inBrackets cursor.rest then
          draft.addPlainScalar
        else
          none

/-- Divides the rest of a text into tokens. The fuel bounds the number of characters. -/
def finish? :
    (fuel : Nat) →
    TokenDraft →
    Option (List Token)
  | 0, _ => none
  | fuel + 1, draft =>
      match (draft.skipLayout (draft.cursor.rest.length + 1)).dropStaleKeyStarts with
      | none => none
      | some fresh =>
          let ended := fresh.endIndentations (fresh.cursor.column < ·)
          if ended.cursor.rest.isEmpty then
            (ended.endIndentations fun _ => true).dropKeyStart.map (·.tokens.reverse)
          else
            ended.addToken.bind (finish? fuel)

end TokenDraft

/-- The tokens of a text. -/
def tokens?
    (source : List Char) :
    Option (List Token) :=
  if source.all isAllowed then
    TokenDraft.finish? (source.length + 1) { cursor := { rest := unifyBreaks source } }
  else
    none

end Phrasebook.Document.Yaml
