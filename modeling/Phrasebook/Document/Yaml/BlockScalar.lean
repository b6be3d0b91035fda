import Phrasebook.Document.Yaml.Cursor

namespace Phrasebook.Document.Yaml

/-!
# Scalars that are lines

After a bar the lines of a scalar are kept; after a greater sign they are folded, except where they
start with a blank. The lines are indented, by a given number of columns or as the first of them
is, and what happens to the ends of lines after the last one can be chosen.
-/

/-- What happens to the ends of lines after the last line: all are dropped, one is kept, or all
are. -/
inductive Chomping where
  | drop
  | clip
  | keep
  deriving Repr, DecidableEq

/-- What the line before the first one of a scalar says about it. An indentation is counted from
that of what holds the scalar. -/
structure BlockHeader where
  chomping : Chomping := .clip
  indentation : Option Nat := none

/-- Reads how the ends of lines after the last line are treated. -/
def readChomping
    (cursor : Cursor) :
    Option (Chomping × Cursor) :=
  match cursor.rest with
  | '+' :: _ => some (.keep, cursor.next)
  | '-' :: _ => some (.drop, cursor.next)
  | _ => none

/-- Reads an indentation, which is a digit but not zero. Without a digit there is none. -/
def readIndentation
    (cursor : Cursor) :
    Option (Option Nat × Cursor) :=
  match cursor.rest with
  | '0' :: _ => none
  | digit :: _ =>
      if digit.isDigit then
        some (some (digit.toNat - '0'.toNat), cursor.next)
      else
        some (none, cursor)
  | [] => some (none, cursor)

/-- Reads the two parts of a header in either order. -/
def readBlockHeader
    (cursor : Cursor) :
    Option (BlockHeader × Cursor) :=
  match readChomping cursor with
  | some (chomping, afterChomping) =>
      (readIndentation afterChomping).map fun (indentation, after) =>
        (⟨chomping, indentation⟩, after)
  | none =>
      match readIndentation cursor with
      | none => none
      | some (none, _) => some ({}, cursor)
      | some (some indentation, afterIndentation) =>
          match readChomping afterIndentation with
          | some (chomping, after) => some (⟨chomping, some indentation⟩, after)
          | none => some ({ indentation := some indentation }, afterIndentation)

/-- Some ends of lines, the greatest column reached by spaces between them, and the place after
them and the indentation that follows. -/
structure EmptyLines where
  breaks : List Char
  widest : Nat
  cursor : Cursor

/-- Reads empty lines and the indentation of the next line, as far as it is known. In place of an
indentation there must be no tab. The fuel bounds the number of characters. -/
def EmptyLines.read
    (indentation : Option Nat) :
    (fuel : Nat) →
    Cursor →
    Option EmptyLines
  | 0, _ => none
  | fuel + 1, cursor =>
      let isIndented := indentation.all fun column => cursor.column < column
      match cursor.rest with
      | [] => some ⟨[], cursor.column, cursor⟩
      | character :: _ =>
          if isBreak character then
            (read indentation fuel cursor.next).map fun lines =>
              ⟨character :: lines.breaks, max cursor.column lines.widest, lines.cursor⟩
          else if isIndented && character = ' ' then
            read indentation fuel cursor.next
          else if isIndented && character = '\t' then
            none
          else
            some ⟨[], cursor.column, cursor⟩

/-- What stands between two lines: the end of the first one, and empty lines. Where lines are
folded, one end of a line stands for a space and of several the first is left out, unless one of
the two lines starts with a blank. -/
def betweenLines
    (folds : Bool)
    (startBlank : Bool)
    (lineEnd : List Char)
    (breaks : List Char) :
    List Char :=
  if folds && !startBlank && lineEnd == ['\n'] then
    if breaks.isEmpty then
      [' ']
    else
      breaks
  else
    lineEnd ++ breaks

/-- The ends of lines after the last line. -/
def chomped
    (chomping : Chomping)
    (lineEnd breaks : List Char) :
    List Char :=
  match chomping with
  | .drop => []
  | .clip => lineEnd
  | .keep => lineEnd ++ breaks

/-- Reads the lines of a scalar after an earlier line and empty lines. The fuel bounds the number
of lines. -/
def readBlockLines
    (folds : Bool)
    (chomping : Chomping)
    (indentation : Nat) :
    (fuel : Nat) →
    (earlierBlank : Bool) →
    (lineEnd : List Char) →
    EmptyLines →
    Option (List Char × Cursor)
  | 0, _, _, _ => none
  | fuel + 1, earlierBlank, lineEnd, empty =>
      let cursor := empty.cursor
      if cursor.column ≠ indentation || cursor.rest.isEmpty then
        some (chomped chomping lineEnd empty.breaks, cursor)
      else
        let isBlankLine := startsBlank cursor.rest
        let line := cursor.rest.takeWhile (!isBreak ·)
        let afterLine := cursor.drop line.length
        let nextEnd := afterLine.rest.take 1
        match EmptyLines.read (some indentation) (afterLine.rest.length + 1) afterLine.next with
        | none => none
        | some next =>
            let between := betweenLines folds (earlierBlank || isBlankLine) lineEnd empty.breaks
            (readBlockLines folds chomping indentation fuel isBlankLine nextEnd next).map
              fun (content, after) => (between ++ line ++ content, after)

/-- Reads a scalar of lines from its mark to the start of the line after it. The lines lie at or to
the right of a column. -/
def readBlock
    (folds : Bool)
    (leastColumn : Nat)
    (cursor : Cursor) :
    Option (List Char × Cursor) :=
  match readBlockHeader cursor.next with
  | none => none
  | some (header, afterHeader) =>
      match afterHeader.afterComment? with
      | none => none
      | some start =>
          let given := header.indentation.map fun more => leastColumn - 1 + more
          match EmptyLines.read given (start.rest.length + 1) start with
          | none => none
          | some empty =>
              let indentation := given.getD (max empty.widest (max leastColumn 1))
              readBlockLines folds header.chomping indentation (start.rest.length + 1) false []
                empty

end Phrasebook.Document.Yaml
