import Phrasebook.Document.Scalar
import Phrasebook.Document.Yaml.Cursor
import Phrasebook.Text.Encoding

namespace Phrasebook.Document.Yaml

/-!
# Tags

A tag is a handle and a suffix, and the directives of a document say what a handle stands for. The
bytes of a tag may be written as percent signs with two hexadecimal digits each, as long as they
have the shape of UTF-8.
-/

/-- A tag as it is written. The handle is empty if the tag is given in full. -/
structure WrittenTag where
  handle : List Char
  suffix : List UInt8
  deriving Repr, DecidableEq

/-- What a tag handle stands for. -/
structure TagHandle where
  handle : List Char
  meaning : List UInt8
  deriving Repr, DecidableEq

/-- The handles that every document has, unless it gives them another meaning. -/
def standardHandles :
    List TagHandle :=
  [
    ⟨['!'], Text.encodeUtf8 ['!']⟩,
    ⟨['!', '!'], Text.encodeUtf8 "tag:yaml.org,2002:".toList⟩
  ]

/-- The full tag of a written one, unless its handle has no meaning. -/
def WrittenTag.resolve?
    (handles : List TagHandle)
    (tag : WrittenTag) :
    Option (List UInt8) :=
  if tag.handle.isEmpty then
    some tag.suffix
  else
    (handles.find? (·.handle == tag.handle)).map fun found => found.meaning ++ tag.suffix

/-- What a full tag says about a scalar. -/
def scalarTag
    (tag : List UInt8) :
    ScalarTag :=
  match (Text.wellFormed? (Text.decodeUtf8 tag)).map String.ofList with
  | some "tag:yaml.org,2002:null" => .nothing
  | some "tag:yaml.org,2002:bool" => .boolean
  | some "tag:yaml.org,2002:int" => .integer
  | some name =>
      match name.toList with
      | ['!'] => .choice name
      | '!' :: choice => .choice (String.ofList choice)
      | _ => .unrelated
  | none => .unrelated

/-- Reads a byte that is written as two hexadecimal digits. -/
def readEscapedByte
    (cursor : Cursor) :
    Option (Nat × Cursor) :=
  match cursor.rest with
  | '%' :: high :: low :: _ =>
      (codedCharacter? [high, low]).map fun byte => (byte.toNat, cursor.drop 3)
  | _ => none

/-- The number of bytes that follow the first byte of a character. -/
def followers?
    (first : Nat) :
    Option Nat :=
  if first < 0x80 then
    some 0
  else if 0xC0 ≤ first && first < 0xE0 then
    some 1
  else if 0xE0 ≤ first && first < 0xF0 then
    some 2
  else if 0xF0 ≤ first && first < 0xF8 then
    some 3
  else
    none

/-- Reads the further bytes of a character. -/
def readFollowers :
    (count : Nat) →
    Cursor →
    Option (List UInt8 × Cursor)
  | 0, cursor => some ([], cursor)
  | count + 1, cursor =>
      match readEscapedByte cursor with
      | none => none
      | some (byte, after) =>
          if 0x80 ≤ byte && byte < 0xC0 then
            (readFollowers count after).map fun (bytes, final) => (byte.toUInt8 :: bytes, final)
          else
            none

/-- Reads the bytes of a character that is written with percent signs. -/
def readEscapedCharacter
    (cursor : Cursor) :
    Option (List UInt8 × Cursor) :=
  match readEscapedByte cursor with
  | none => none
  | some (first, after) =>
      match followers? first with
      | none => none
      | some count =>
          (readFollowers count after).map fun (bytes, final) => (first.toUInt8 :: bytes, final)

/-- Whether a character may stand in a tag. In full tags and in directives these are a few more. -/
def isTagCharacter
    (isFull : Bool)
    (character : Char) :
    Bool :=
  isNameCharacter character || ";/?:@&=+$.%!~*'()".toList.contains character ||
    (isFull && [',', '[', ']'].contains character)

/-- Reads the characters of a tag. The fuel bounds their number. -/
def readTagCharacters
    (isFull : Bool) :
    (fuel : Nat) →
    Cursor →
    Option (List UInt8 × Cursor)
  | 0, _ => none
  | fuel + 1, cursor =>
      match cursor.rest with
      | [] => some ([], cursor)
      | character :: _ =>
          if character = '%' then
            match readEscapedCharacter cursor with
            | none => none
            | some (bytes, after) =>
                (readTagCharacters isFull fuel after).map fun (more, final) =>
                  (bytes ++ more, final)
          else if isTagCharacter isFull character then
            (readTagCharacters isFull fuel cursor.next).map fun (more, final) =>
              (character.toNat.toUInt8 :: more, final)
          else
            some ([], cursor)

/-- Reads a nonempty run of the characters of a tag. -/
def readTagText
    (isFull : Bool)
    (cursor : Cursor) :
    Option (List UInt8 × Cursor) :=
  (readTagCharacters isFull (cursor.rest.length + 1) cursor).filter fun (bytes, _) =>
    !bytes.isEmpty

/-- The exclamation mark, name and second exclamation mark that may start a tag. -/
def handleCharacters :
    List Char →
    List Char
  | '!' :: rest =>
      let name := rest.takeWhile isNameCharacter
      if rest[name.length]? == some '!' then
        '!' :: name ++ ['!']
      else
        '!' :: name
  | _ => []

/-- Whether a text is a handle of more than one exclamation mark. -/
def isNamedHandle
    (handle : List Char) :
    Bool :=
  1 < handle.length && handle.getLast? == some '!'

/-- Reads a tag that is given in full, after its first two characters. -/
def readFullTag
    (cursor : Cursor) :
    Option (WrittenTag × Cursor) :=
  match readTagText true cursor with
  | none => none
  | some (suffix, after) =>
      if after.rest.head? == some '>' then
        some (⟨[], suffix⟩, after.next)
      else
        none

/-- Reads a tag with a handle, or an exclamation mark alone, which is a tag of its own. -/
def readShortTag
    (cursor : Cursor) :
    Option (WrittenTag × Cursor) :=
  let handle := handleCharacters cursor.rest
  let afterHandle := cursor.drop handle.length
  if isNamedHandle handle then
    (readTagText false afterHandle).map fun (suffix, after) => (⟨handle, suffix⟩, after)
  else
    (readTagCharacters false (afterHandle.rest.length + 1) afterHandle).map fun (bytes, after) =>
      let suffix := Text.encodeUtf8 (handle.drop 1) ++ bytes
      if suffix.isEmpty then
        (⟨[], Text.encodeUtf8 ['!']⟩, after)
      else
        (⟨['!'], suffix⟩, after)

/-- Reads a tag, which has to be followed by a blank, or in brackets by a comma. -/
def readTag
    (inBrackets : Bool)
    (cursor : Cursor) :
    Option (WrittenTag × Cursor) :=
  let found :=
    if cursor.rest[1]? == some '<' then
      readFullTag (cursor.drop 2)
    else
      readShortTag cursor
  found.filter fun (_, after) =>
    startsApart after.rest || (inBrackets && after.rest.head? == some ',')

end Phrasebook.Document.Yaml
