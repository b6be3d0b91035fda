import Phrasebook.Document.Yaml.Cursor
import Phrasebook.Document.Yaml.Token

namespace Phrasebook.Document.Yaml

/-!
# Tokens under construction

That a scalar or a value in brackets is a key is known only at the colon after it, which has to
stand on the same line and not too far away. So the places where a key may have started are
remembered, and the mark of a key is put in front of what was read since.
-/

/-- A place at which a key may have started, and the number of tokens before it. Where something
else than a key would break the indentation, the key is required. -/
structure KeyStart where
  tokenCount : Nat
  index : Nat
  line : Nat
  column : Nat
  isRequired : Bool
  deriving Repr, DecidableEq

/-- How far a text has been divided into tokens, of which the last one is the first in the list. The
indentations of the open lists and tables start with the innermost. A key may have started at one
place outside of brackets and one in each pair of them. -/
structure TokenDraft where
  cursor : Cursor
  tokens : List Token := []
  indentations : List Nat := []
  mayStartKey : Bool := true
  keyStart : Option KeyStart := none
  outerKeyStarts : List (Option KeyStart) := []

namespace TokenDraft

/-- Whether the text goes on between brackets. -/
def inBrackets
    (draft : TokenDraft) :
    Bool :=
  !draft.outerKeyStarts.isEmpty

/-- The least column at which a scalar goes on. -/
def leastColumn
    (draft : TokenDraft) :
    Nat :=
  match draft.indentations with
  | [] => 0
  | innermost :: _ => innermost + 1

/-- Adds a token. -/
def add
    (token : Token)
    (draft : TokenDraft) :
    TokenDraft :=
  { draft with tokens := token :: draft.tokens }

/-- Adds a mark of some characters. -/
def addMark
    (token : Token)
    (length : Nat)
    (draft : TokenDraft) :
    TokenDraft :=
  { draft with tokens := token :: draft.tokens, cursor := draft.cursor.drop length }

/-- Adds a mark in front of the last tokens. -/
def addBefore
    (token : Token)
    (tokenCount : Nat)
    (draft : TokenDraft) :
    TokenDraft :=
  let later := draft.tokens.length - tokenCount
  { draft with tokens := draft.tokens.take later ++ token :: draft.tokens.drop later }

/-- Sets whether a key may start at the next token. -/
def allowKey
    (mayStartKey : Bool)
    (draft : TokenDraft) :
    TokenDraft :=
  { draft with mayStartKey := mayStartKey }

/-- Gives up the key that may have started in the innermost brackets, if it is not required. -/
def dropKeyStart
    (draft : TokenDraft) :
    Option TokenDraft :=
  if draft.keyStart.any (·.isRequired) then
    none
  else
    some { draft with keyStart := none }

/-- Notes that a key may start here, if it may. -/
def noteKeyStart
    (draft : TokenDraft) :
    Option TokenDraft :=
  if draft.mayStartKey then
    let start : KeyStart := {
      tokenCount := draft.tokens.length
      index := draft.cursor.index
      line := draft.cursor.line
      column := draft.cursor.column
      isRequired := !draft.inBrackets && draft.indentations.head? == some draft.cursor.column
    }
    draft.dropKeyStart.map fun dropped => { dropped with keyStart := some start }
  else
    some draft

/-- Whether a key that started at a place can still end here: it lies on one line and has at most
1024 characters. -/
def canEnd
    (cursor : Cursor)
    (start : KeyStart) :
    Bool :=
  start.line == cursor.line && cursor.index ≤ start.index + 1024

/-- Gives up all keys that cannot end here any more, if none of them is required. -/
def dropStaleKeyStarts
    (draft : TokenDraft) :
    Option TokenDraft :=
  let isStale (start : KeyStart) : Bool := !canEnd draft.cursor start
  let starts := draft.keyStart :: draft.outerKeyStarts
  if starts.any (·.any fun start => isStale start && start.isRequired) then
    none
  else
    some { draft with
      keyStart := draft.keyStart.filter (!isStale ·)
      outerKeyStarts := draft.outerKeyStarts.map (·.filter (!isStale ·)) }

/-- Ends the lists and tables that a condition on their indentation holds for. Between brackets
indentation has no meaning. -/
def endIndentations
    (ends : Nat → Bool)
    (draft : TokenDraft) :
    TokenDraft :=
  if draft.inBrackets then
    draft
  else
    let ended := draft.indentations.takeWhile ends
    { draft with
      tokens := List.replicate ended.length .indentEnd ++ draft.tokens
      indentations := draft.indentations.drop ended.length }

/-- Whether a column outside of brackets lies to the right of the innermost list or table. -/
def isDeeper
    (column : Nat)
    (draft : TokenDraft) :
    Bool :=
  !draft.inBrackets && draft.indentations.head?.all (· < column)

/-- Starts a list or table at a column, if none is open there. -/
def startIndentation
    (token : Token)
    (column : Nat)
    (draft : TokenDraft) :
    TokenDraft :=
  if draft.isDeeper column then
    { draft.add token with indentations := column :: draft.indentations }
  else
    draft

/-- Passes over blanks, comments and ends of lines. A tab must not stand where a key may start
outside of brackets. A byte order mark at the start of the text is passed over as well. The fuel
bounds the number of lines. -/
def skipLayout :
    (fuel : Nat) →
    TokenDraft →
    TokenDraft
  | 0, draft => draft
  | fuel + 1, draft =>
      let start :=
        if draft.cursor.index = 0 && draft.cursor.rest.head? == some '\uFEFF' then
          draft.cursor.next
        else
          draft.cursor
      let mayHoldTab := draft.inBrackets || !draft.mayStartKey
      let unblank := start.dropWhile fun character =>
        character == ' ' || (mayHoldTab && character == '\t')
      let uncommented :=
        if unblank.rest.head? == some '#' then
          unblank.dropWhile (!isBreak ·)
        else
          unblank
      if startsBreak uncommented.rest then
        skipLayout fuel { draft with
          cursor := uncommented.next
          mayStartKey := !draft.inBrackets || draft.mayStartKey }
      else
        { draft with cursor := uncommented }

/-- Adds a token that stands outside of all lists and tables. -/
def addOutermost
    (token : Token)
    (after : Cursor)
    (draft : TokenDraft) :
    Option TokenDraft :=
  (draft.endIndentations fun _ => true).dropKeyStart.map fun dropped =>
    { (dropped.add token).allowKey false with cursor := after }

/-- Adds an opening bracket. -/
def openBracket
    (token : Token)
    (draft : TokenDraft) :
    Option TokenDraft :=
  draft.noteKeyStart.map fun noted =>
    { (noted.addMark token 1).allowKey true with
      keyStart := none
      outerKeyStarts := noted.keyStart :: noted.outerKeyStarts }

/-- Adds a closing bracket. -/
def closeBracket
    (token : Token)
    (draft : TokenDraft) :
    Option TokenDraft :=
  draft.dropKeyStart.map fun dropped =>
    let marked := (dropped.addMark token 1).allowKey false
    match marked.outerKeyStarts with
    | [] => marked
    | start :: outer => { marked with keyStart := start, outerKeyStarts := outer }

/-- Adds a comma. -/
def addComma
    (draft : TokenDraft) :
    Option TokenDraft :=
  draft.dropKeyStart.map fun dropped => (dropped.addMark .comma 1).allowKey true

/-- Adds the mark of an item of a list. -/
def addItem
    (draft : TokenDraft) :
    Option TokenDraft :=
  if draft.inBrackets || draft.mayStartKey then
    let started := draft.startIndentation .listStart draft.cursor.column
    started.dropKeyStart.map fun dropped => (dropped.addMark .item 1).allowKey true
  else
    none

/-- Adds the mark of a key. -/
def addKey
    (draft : TokenDraft) :
    Option TokenDraft :=
  if draft.inBrackets || draft.mayStartKey then
    let started := draft.startIndentation .tableStart draft.cursor.column
    started.dropKeyStart.map fun dropped =>
      (dropped.addMark .key 1).allowKey (!draft.inBrackets)
  else
    none

/-- Marks what was read since a place as a key, and starts a table there if none is open. -/
def markKey
    (start : KeyStart)
    (draft : TokenDraft) :
    TokenDraft :=
  let marked := draft.addBefore .key start.tokenCount
  if draft.isDeeper start.column then
    { marked.addBefore .tableStart start.tokenCount with
      indentations := start.column :: draft.indentations }
  else
    marked

/-- Adds the mark of a value. What may have been a key before it is one; without such a key the
value belongs to a key with a mark, or to none. -/
def addValue
    (draft : TokenDraft) :
    Option TokenDraft :=
  match draft.keyStart with
  | some start =>
      let marked := { draft.markKey start with keyStart := none }
      some ((marked.addMark .value 1).allowKey false)
  | none =>
      if draft.inBrackets || draft.mayStartKey then
        let started := draft.startIndentation .tableStart draft.cursor.column
        some ((started.addMark .value 1).allowKey (!draft.inBrackets))
      else
        none

end TokenDraft

end Phrasebook.Document.Yaml
